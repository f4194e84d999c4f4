import Phrasebook.CommandLine.Run
import Phrasebook.Proofs.Name.Copies
import Phrasebook.Proofs.Settings.Chosen
import Phrasebook.Proofs.Template.Interleaving

/-!
# What commands print

A command is followed from a text that is already printed: a step that prints nothing hands it on or fails with it, and a line is put behind it. So the result of every command is known: `format` and `default` fail before they print, and `names` and `key` do not fail. Nothing is printed by a command that fails, and `format` prints what formatting gives, as one line.

The names that `names` prints can be bound by `format`. A name holds no equals sign, so a binding is cut behind its name whatever the value is (`binding?_bindingText`); the names are distinct, so no binding replaces another; and each is read back between the marks of a placeholder, so a template with these names between texts of any kind is read as just these texts and names.
-/

namespace Phrasebook.CommandLine

variable {α β : Type}

namespace Printing

theorem silently_ok_bind (value : α) (next : α → Printing β) :
    silently (.ok value) >>= next = next value := rfl

theorem run_silently_error_bind (error : Error) (next : α → Printing β) (printed : String) :
    (silently (.error error) >>= next).run.run printed = (.error error, printed) := rfl

theorem run_printLine (line printed : String) :
    (printLine line).run.run printed = (.ok (), printed ++ line ++ "\n") := rfl

theorem run_printLine_bind (line : String) (next : Unit → Printing β) (printed : String) :
    (printLine line >>= next).run.run printed = (next ()).run.run (printed ++ line ++ "\n") := rfl

theorem run_forM_printLine (lines : List String) (printed : String) :
    (lines.forM printLine).run.run printed = (.ok (), printed ++ linesText lines) := by
  induction lines generalizing printed with
  | nil =>
    rw [linesText, List.map_nil, String.join_nil, String.append_empty]
    rfl
  | cons line rest ih =>
    have hcons : (line :: rest).forM printLine = printLine line >>= fun _ => rest.forM printLine :=
      rfl
    rw [hcons, run_printLine_bind, ih, linesText, linesText, List.map_cons, String.join_cons]
    simp only [String.append_assoc]

end Printing

/-! ### The result of each command -/

namespace Command

variable {disk : Disk} {environment : Settings.Environment}

section

variable (template : String) (bindings : List (String × String)) (mode : Option EscapeMode)
  {file : Option String}

theorem result_format_of_load_error {error : Error}
    (h : loadSettings disk environment file = .error error) :
    (format template bindings mode file).result disk environment = (.error error, "") := by
  rw [result, run, h]
  exact Printing.run_silently_error_bind _ _ _

theorem result_format {settings : Settings}
    (h : loadSettings disk environment file = .ok settings) :
    (format template bindings mode file).result disk environment =
      match Phrasebook.format template (Dictionary.ofList bindings)
        (mode.getD settings.escapeMode) with
      | .ok text => (.ok (), text ++ "\n")
      | .error error => (.error (.format error), "") := by
  rw [result, run, h, Printing.silently_ok_bind]
  dsimp only
  cases Phrasebook.format template (Dictionary.ofList bindings)
      (mode.getD settings.escapeMode) with
  | error error => exact Printing.run_silently_error_bind _ _ _
  | ok text =>
    have hprinted := Printing.run_printLine text ""
    rwa [String.empty_append] at hprinted

end

theorem result_names (naturals : List String) :
    (names naturals).result disk environment = (.ok (), linesText (canonicalNames naturals)) := by
  have hprinted := Printing.run_forM_printLine (canonicalNames naturals) ""
  rwa [String.empty_append] at hprinted

theorem result_key (space : String) :
    (key space).result disk environment = (.ok (), (Service.Key.derive space).text ++ "\n") := by
  have hprinted := Printing.run_printLine (Service.Key.derive space).text ""
  rwa [String.empty_append] at hprinted

theorem result_default (file : Option String) :
    (default file).result disk environment =
      match loadSettings disk environment file with
      | .ok settings => (.ok (), linesText [settings.defaultService,
          (Service.Key.derive settings.defaultService).text])
      | .error error => (.error error, "") := by
  rw [result, run]
  cases loadSettings disk environment file with
  | error error => exact Printing.run_silently_error_bind _ _ _
  | ok settings =>
    rw [Printing.silently_ok_bind, Printing.run_printLine_bind, Printing.run_printLine]
    simp [linesText, String.append_assoc]

theorem result_snd_of_error {command : Command} {error : Error}
    (h : (command.result disk environment).1 = .error error) :
    (command.result disk environment).2 = "" := by
  cases command with
  | format template bindings mode file =>
    cases hload : loadSettings disk environment file with
    | error fault => rw [result_format_of_load_error template bindings mode hload]
    | ok settings =>
      rw [result_format template bindings mode hload] at h ⊢
      split at h
      · cases h
      · rfl
  | names naturals =>
    rw [result_names] at h
    cases h
  | key space =>
    rw [result_key] at h
    cases h
  | default file =>
    rw [result_default] at h ⊢
    split at h
    · cases h
    · rfl

end Command

/-! ### What a run comes to -/

theorem loadSettings_eq (disk : Disk) (environment : Settings.Environment) (file : Option String) :
    loadSettings disk environment file =
      Settings.loadFrom disk environment (file.or (Settings.discover disk environment)) := by
  cases file <;> rfl

/-- Whatever the words are, nothing is printed but by what succeeds. -/
theorem output_of_code_ne_zero {disk : Disk} {environment : Settings.Environment}
    {request : Request} (h : (request.answer disk environment).code ≠ 0) :
    (request.answer disk environment).output = "" := by
  cases request with
  | run command =>
    rw [Request.answer] at h ⊢
    cases hresult : command.result disk environment with
    | mk ended printed =>
      rw [hresult] at h
      cases ended with
      | ok value => exact absurd rfl h
      | error error =>
        have hprinted := Command.result_snd_of_error (congrArg Prod.fst hresult)
        rwa [hresult] at hprinted
  | version => exact absurd rfl h
  | help topic => cases topic <;> exact absurd rfl h
  | nothing => rfl
  | mistake topic error => rfl

/-- `format` fails with what is wrong with the settings if they cannot be loaded. Otherwise it prints what formatting gives, and one line feed, or fails as formatting does; it formats with the last value of each name, in the mode of the flag, or else in the topmost mode of the settings. No command that fails prints anything. -/
theorem format_prints_or_fails (disk : Disk) (environment : Settings.Environment) :
    (∀ template bindings mode file,
      (∀ error, loadSettings disk environment file = .error error →
        (Command.format template bindings mode file).result disk environment = (.error error, "")) ∧
      (∀ settings, loadSettings disk environment file = .ok settings →
        (∃ layer, Settings.IsFileLayer disk (file.or (Settings.discover disk environment)) layer ∧
          (Settings.topmostMode environment layer).text? = some settings.escapeMode.keyword ∧
          (environment.IsPlain → Settings.topmostMode environment layer =
            Settings.chosenMode environment layer)) ∧
        ∀ arguments : Arguments, (∀ name, arguments.get? name = bindings.reverse.lookup name) →
          (∀ text, Phrasebook.format template arguments (mode.getD settings.escapeMode) = .ok text →
            (Command.format template bindings mode file).result disk environment =
              (.ok (), text ++ "\n")) ∧
          (∀ error, Phrasebook.format template arguments (mode.getD settings.escapeMode) =
              .error error →
            (Command.format template bindings mode file).result disk environment =
              (.error (.format error), "")))) ∧
    (∀ (command : Command) (error : Error),
      (command.result disk environment).1 = .error error →
        (command.result disk environment).2 = "") ∧
    (∀ words, (execute disk environment words).code ≠ 0 →
      (execute disk environment words).output = "") := by
  refine ⟨fun template bindings mode file => ⟨fun error hload =>
    Command.result_format_of_load_error template bindings mode hload, fun settings hload => ?_⟩,
    fun command error => Command.result_snd_of_error, fun words => output_of_code_ne_zero⟩
  constructor
  · obtain ⟨layer, hlayer, hsettings⟩ :=
      Settings.exists_isFileLayer ((loadSettings_eq disk environment file).symm.trans hload)
    exact ⟨layer, hlayer, Settings.text?_topmostMode hlayer.sorted hsettings,
      fun hplain => Settings.topmostMode_eq_chosenMode hplain⟩
  · intro arguments hbound
    have harguments : arguments = Dictionary.ofList bindings :=
      Dictionary.ext_get? fun name => (hbound name).trans (Dictionary.get?_ofList bindings name).symm
    subst harguments
    have hresult := Command.result_format template bindings mode hload
    refine ⟨fun text htext => ?_, fun error herror => ?_⟩
    · rw [hresult, htext]
    · rw [hresult, herror]

/-- An environment in which references are decoded. -/
def decodingEnvironment : Settings.Environment :=
  ⟨[("SVCMSG_ESCAPE_MODE", "UNESCAPE_ENTITIES")], by decide⟩

/-- An environment with a mode that does not exist. -/
def mistakenEnvironment : Settings.Environment := ⟨[("SVCMSG_ESCAPE_MODE", "x")], by decide⟩

theorem format_prints_or_fails_by_environment :
    (Command.format "\x7b$a\x7d&amp;" [("a", "1"), ("a", "2")] none none).result (fun _ => none)
      decodingEnvironment = (.ok (), "2&\n") ∧
    (Command.format "\x7b$" [] (some .preserve) none).result (fun _ => none) mistakenEnvironment =
      (.error (.settings (Settings.wrongMode "x" ["escape_mode"] .environment)), "") ∧
    (execute (fun _ => none) mistakenEnvironment ["format", "\x7b$"]).output = "" := by
  have hparse : Template.parse "\x7b$a\x7d&amp;" = .ok ⟨[.placeholder "a", .literal "&amp;"]⟩ :=
    @Template.parse_source ⟨[.placeholder "a", .literal "&amp;"]⟩ (by decide)
  have hformat : Phrasebook.format "\x7b$a\x7d&amp;" (Dictionary.ofList [("a", "1"), ("a", "2")])
      .unescape = .ok "2&" := by
    rw [Phrasebook.format, hparse]
    decide +kernel
  have hsettings : loadSettings (fun _ => none) decodingEnvironment none =
      .ok { escapeMode := .unescape } := by decide +kernel
  have hfault : loadSettings (fun _ => none) mistakenEnvironment none =
      .error (.settings (Settings.wrongMode "x" ["escape_mode"] .environment)) := by decide +kernel
  obtain ⟨hdecoding, -, -⟩ := format_prints_or_fails (fun _ => none) decodingEnvironment
  obtain ⟨hmistaken, -, houtput⟩ := format_prints_or_fails (fun _ => none) mistakenEnvironment
  refine ⟨?_, (hmistaken _ _ _ none).1 _ hfault, houtput _ (by decide +kernel)⟩
  exact (((hdecoding _ _ none none).2 _ hsettings).2 _ (Dictionary.get?_ofList _)).1 "2&" hformat

/-! ### Printed names as bindings -/

open Phrasebook.Text

/-- A name and a value as one word of the command line. -/
def bindingText (name value : String) : String := name ++ "=" ++ value

theorem binding?_bindingText {name : String} (h : Name.isValid name.toList = true)
    (value : String) : binding? (bindingText name value) = some (name, value) := by
  have hchars : (bindingText name value).toList = name.toList ++ '=' :: value.toList := by
    simp [bindingText]
  have hmark : Name.isContinue '=' = false := rfl
  have hcut := cut?_append_cons (Name.not_mem_of_isValid hmark h) value.toList
  rw [binding?, hchars, hcut]
  cases hname : name.toList with
  | nil =>
    rw [hname] at h
    cases h
  | cons c rest => simp [← hname]

theorem mapM_binding? {names values : List String}
    (hnames : ∀ name ∈ names, Name.isValid name.toList = true) :
    (List.zipWith bindingText names values).mapM binding? = some (names.zip values) := by
  induction names generalizing values with
  | nil => rfl
  | cons name names ih =>
    cases values with
    | nil => rfl
    | cons value values =>
      obtain ⟨hname, hrest⟩ := List.forall_mem_cons.1 hnames
      rw [List.zipWith_cons_cons, List.mapM_cons, binding?_bindingText hname, ih hrest]
      rfl

/-- Canonical names, which are what `names` prints, and any values make words that are read as bindings. With these bindings any texts without a marker, with the marked names between them, are formatted to the texts with the values between them, and so `format` prints it. -/
theorem format_canonicalNames (naturals values gaps : List String)
    (hvalues : values.length = naturals.length) (hgaps : gaps.length = naturals.length + 1)
    (hclear : ∀ gap ∈ gaps, ¬['{', '$'] <:+: gap.toList) :
    ∃ bindings,
      (List.zipWith bindingText (canonicalNames naturals) values).mapM binding? = some bindings ∧
      Phrasebook.format (interleave gaps ((canonicalNames naturals).map Segment.mark))
        (Dictionary.ofList bindings) .preserve = .ok (interleave gaps values) ∧
      ∀ (disk : Disk) (environment : Settings.Environment),
        (Command.names naturals).result disk environment =
          (.ok (), linesText (canonicalNames naturals)) ∧
        ∀ (file : Option String) (settings : Settings),
          loadSettings disk environment file = .ok settings →
            (Command.format (interleave gaps ((canonicalNames naturals).map Segment.mark)) bindings
              (some .preserve) file).result disk environment =
                (.ok (), interleave gaps values ++ "\n") := by
  obtain ⟨hnodup, -, hvalid, -, -⟩ := Namer.hasReturned_canonicalNames naturals
  have hlength : (canonicalNames naturals).length = naturals.length :=
    Namer.length_assignAll .empty naturals
  have hbound := Arguments.map_get?_zip hnodup (hvalues.trans hlength.symm)
  have hformat := Template.format_interleave (by rw [hgaps, hlength]) hclear hvalid hbound .preserve
  have hmode : EscapeMode.preserve.apply = id := rfl
  rw [hmode, List.map_id, Arguments.zip] at hformat
  refine ⟨_, mapM_binding? hvalid, hformat, fun disk environment =>
    ⟨Command.result_names naturals, fun file settings hload => ?_⟩⟩
  rw [Command.result_format _ _ _ hload, Option.getD_some, hformat]

/-- Names that collide, values that hold the marks of bindings and placeholders, and texts that end in a brace or start with a dollar sign. -/
theorem format_canonicalNames_colliding :
    canonicalNames ["_arg", "arg", "html"] = ["arg", "arg_1", "html_1"] ∧
    ∃ bindings,
      ["arg=a=b", "arg_1=\x7b$x\x7d", "html_1=&amp;"].mapM binding? = some bindings ∧
      Phrasebook.format "\x7b\x7b$arg\x7d$\x7b$arg_1\x7d\x7b\x7b$html_1\x7d\x7d$"
        (Dictionary.ofList bindings) .preserve = .ok "\x7ba=b$\x7b$x\x7d\x7b&amp;\x7d$" := by
  have hnames : canonicalNames ["_arg", "arg", "html"] = ["arg", "arg_1", "html_1"] := by decide
  obtain ⟨bindings, hread, hformat, -⟩ := format_canonicalNames ["_arg", "arg", "html"]
    ["a=b", "\x7b$x\x7d", "&amp;"] ["\x7b", "$", "\x7b", "\x7d$"] rfl rfl (by decide)
  rw [hnames] at hread hformat
  exact ⟨hnames, bindings, hread, hformat⟩

end Phrasebook.CommandLine
