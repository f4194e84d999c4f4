import Phrasebook.Proofs.Message.Building
import Phrasebook.Proofs.Template.Strays

/-!
# What building reports

Building reports the first segment that is not sound. Sound segments have no strays, so where this is literal text its marker is the first stray of the written form, and the position that building counts along is the byte at which it stands. Text that is appended later stands behind it, also where it is joined to the same literal, and a name that is declared later makes no marker go away: such a failure stays. A name that is missing is missing only until it is declared.
-/

namespace Phrasebook

open Text

/-! ### The first offence -/

namespace Segment

/-- Literal text without a marker, or a placeholder for a name that was returned. -/
def IsSound (returned : List String) : Segment → Prop
  | literal text => ¬['{', '$'] <:+: text.toList
  | placeholder name => name ∈ returned

/-- What is wrong with a segment that starts at byte `position` of the written form. -/
inductive Offends (returned : List String) (position : Nat) : Segment → FormatError → Prop
  | marker {text : String} {index : Nat} (h : IsLeast (markers text.toList) index) :
      Offends returned position (.literal text) (.malformed (position + index) .reservedSequence)
  | undeclared {name : String} (h : name ∉ returned) :
      Offends returned position (.placeholder name) (.unbound name)

theorem Offends.not_isSound {returned : List String} {position : Nat} {segment : Segment}
    {error : FormatError} (h : segment.Offends returned position error) :
    ¬segment.IsSound returned := by
  cases h with
  | undeclared h => exact h
  | marker h =>
    intro hsound
    have hnone := markers_eq_empty_of_markerAt? (markerAt?_eq_none_iff.2 hsound)
    rw [hnone] at h
    exact h.1

end Segment

/-- The first segment that is not sound offends with this error. -/
def Template.FirstOffence (template : Template) (returned : List String) (error : FormatError) :
    Prop :=
  ∃ before segment after, template.segments = before ++ segment :: after ∧
    (∀ earlier ∈ before, earlier.IsSound returned) ∧
    segment.Offends returned (Template.mk before).source.utf8ByteSize error

namespace Builder

section

variable {namer : Namer} {returned : List String}
  (hnamer : ∀ name, namer.isAssigned name = true ↔ name ∈ returned)

include hnamer

theorem firstFault?_cons_of_isSound {segment : Segment} (h : segment.IsSound returned)
    (position : Nat) (segments : List Segment) :
    firstFault? namer position (segment :: segments) =
      firstFault? namer (position + byteLength segment.chars) segments := by
  cases segment with
  | literal text =>
    rw [firstFault?, markerAt?_eq_none_iff.2 h, Segment.chars, byteLength_toList]
  | placeholder name =>
    rw [firstFault?, if_pos ((hnamer name).2 h), Template.byteLength_chars_placeholder,
      byteLength_toList, Nat.add_assoc]

theorem firstFault?_cons_of_not_isSound {segment : Segment} (h : ¬segment.IsSound returned)
    {position : Nat} {segments : List Segment} {error : FormatError} :
    firstFault? namer position (segment :: segments) = some error ↔
      segment.Offends returned position error := by
  cases segment with
  | literal text =>
    obtain ⟨index, hindex⟩ : ∃ index, markerAt? text.toList = some index :=
      Option.ne_none_iff_exists'.1 fun hnone => h (markerAt?_eq_none_iff.1 hnone)
    have hleast := isLeast_markers_of_markerAt? hindex
    rw [firstFault?, hindex]
    constructor
    · rintro ⟨⟩
      exact .marker hleast
    · intro hoffends
      cases hoffends with
      | marker hother => rw [hother.unique hleast]
  | placeholder name =>
    rw [firstFault?, if_neg (mt (hnamer name).1 h)]
    constructor
    · rintro ⟨⟩
      exact .undeclared h
    · intro hoffends
      cases hoffends with
      | undeclared _ => rfl

/-- The scan of the segments finds the first offence, with the position counted on from where it starts. -/
theorem firstFault?_eq_some_iff {segments : List Segment} {position : Nat} {error : FormatError} :
    firstFault? namer position segments = some error ↔
      ∃ before segment after, segments = before ++ segment :: after ∧
        (∀ earlier ∈ before, earlier.IsSound returned) ∧
        segment.Offends returned (position + (Template.mk before).source.utf8ByteSize) error := by
  induction segments generalizing position with
  | nil => simp [firstFault?]
  | cons head segments ih =>
    by_cases hsound : head.IsSound returned
    · rw [firstFault?_cons_of_isSound hnamer hsound, ih]
      constructor
      · rintro ⟨before, segment, after, rfl, hbefore, hoffends⟩
        refine ⟨head :: before, segment, after, rfl, List.forall_mem_cons.2 ⟨hsound, hbefore⟩, ?_⟩
        rwa [Template.utf8ByteSize_source_cons, ← Nat.add_assoc]
      · rintro ⟨before, segment, after, hsegments, hbefore, hoffends⟩
        rcases List.cons_eq_append_iff.1 hsegments with ⟨rfl, hhead⟩ | ⟨tail, rfl, htail⟩
        · obtain ⟨rfl, -⟩ := List.cons.inj hhead
          exact absurd hsound hoffends.not_isSound
        · rw [Template.utf8ByteSize_source_cons, ← Nat.add_assoc] at hoffends
          exact ⟨tail, segment, after, htail, (List.forall_mem_cons.1 hbefore).2, hoffends⟩
    · rw [firstFault?_cons_of_not_isSound hnamer hsound]
      constructor
      · exact fun hoffends => ⟨[], head, segments, rfl, by simp, hoffends⟩
      · rintro ⟨before, segment, after, hsegments, hbefore, hoffends⟩
        rcases List.cons_eq_append_iff.1 hsegments with ⟨rfl, hhead⟩ | ⟨tail, rfl, -⟩
        · obtain ⟨rfl, -⟩ := List.cons.inj hhead
          exact hoffends
        · exact absurd (hbefore head List.mem_cons_self) hsound

end

theorem build_eq_error_iff {builder : Builder} {error : FormatError} :
    builder.build = .error error ↔
      firstFault? builder.namer 0 builder.template.segments = some error := by
  rw [build]
  cases firstFault? builder.namer 0 builder.template.segments with
  | none => simp
  | some fault => simp

end Builder

/-! ### The first stray -/

namespace Template

variable {returned : List String}

/-- Every placeholder that starts before this byte of the written form has a name that was returned. -/
def DeclaredBefore (template : Template) (returned : List String) (position : Nat) : Prop :=
  ∀ before name after, template.segments = before ++ .placeholder name :: after →
    (Template.mk before).source.utf8ByteSize < position → name ∈ returned

theorem strays_cons_of_isSound {segment : Segment} {segments : List Segment}
    (htidy : Segment.Tidy (segment :: segments)) (h : segment.IsSound returned) :
    strays ⟨segment :: segments⟩ = (byteLength segment.chars + ·) '' strays ⟨segments⟩ := by
  cases segment with
  | literal text =>
    have hnone := markers_eq_empty_of_markerAt? (markerAt?_eq_none_iff.2 h)
    rw [strays_literal (List.isChain_cons.1 htidy.separate).1, hnone, Set.empty_union]
    rfl
  | placeholder name => exact strays_placeholder (htidy.isValid name List.mem_cons_self) segments

theorem strays_append_of_isSound {before rest : List Segment}
    (htidy : Segment.Tidy (before ++ rest)) (h : ∀ segment ∈ before, segment.IsSound returned) :
    strays ⟨before ++ rest⟩ =
      ((Template.mk before).source.utf8ByteSize + ·) '' strays ⟨rest⟩ := by
  induction before with
  | nil => simp [source, sourceChars]
  | cons segment before ih =>
    obtain ⟨hsegment, hbefore⟩ := List.forall_mem_cons.1 h
    rw [List.cons_append] at htidy ⊢
    rw [strays_cons_of_isSound htidy hsegment, ih htidy.tail hbefore, Set.image_image]
    simp only [utf8ByteSize_source_cons, Nat.add_assoc]

theorem strays_eq_empty {template : Template} (htidy : Segment.Tidy template.segments)
    (h : ∀ segment ∈ template.segments, segment.IsSound returned) : template.strays = ∅ := by
  have htidy' : Segment.Tidy (template.segments ++ []) := by rwa [List.append_nil]
  have hstrays := strays_append_of_isSound htidy' h
  rwa [List.append_nil, strays_nil, Set.image_empty] at hstrays

namespace FirstOffence

variable {template : Template}

theorem isLeast_strays (htidy : Segment.Tidy template.segments) {position : Nat}
    {fault : PlaceholderFault} (h : template.FirstOffence returned (.malformed position fault)) :
    fault = .reservedSequence ∧ IsLeast template.strays position ∧
      template.DeclaredBefore returned position := by
  obtain ⟨segments⟩ := template
  obtain ⟨before, segment, after, rfl, hbefore, hoffends⟩ := h
  cases hoffends with
  | @marker text index hmarker =>
    have hindex : index < byteLength text.toList := lt_of_mem_markers hmarker.1
    refine ⟨rfl, ?_, fun front name behind hsegments hlt => ?_⟩
    · have hnext := (List.isChain_cons.1 htidy.separate.right_of_append).1
      have hleast : IsLeast (strays ⟨.literal text :: after⟩) index := by
        rw [strays_literal hnext]
        refine ⟨.inl hmarker.1, ?_⟩
        rintro position (hposition | ⟨later, -, rfl⟩)
        · exact hmarker.2 hposition
        · exact Nat.le_trans (Nat.le_of_lt hindex) (Nat.le_add_right _ _)
      have hmono : StrictMono ((Template.mk before).source.utf8ByteSize + ·) :=
        fun _ _ hlt => Nat.add_lt_add_left hlt _
      rw [strays_append_of_isSound htidy hbefore]
      exact hmono.map_isLeast.2 hleast
    · -- The placeholder stands before the literal, since it starts before the literal's marker.
      rcases List.append_eq_append_iff.1 hsegments with ⟨tail, rfl, htail⟩ | ⟨tail, rfl, htail⟩
      · rcases List.cons_eq_append_iff.1 htail with ⟨rfl, hhead⟩ | ⟨rest, rfl, -⟩
        · cases hhead
        · rw [utf8ByteSize_source_append, utf8ByteSize_source_cons, Segment.chars] at hlt
          omega
      · rcases List.cons_eq_append_iff.1 htail with ⟨rfl, hhead⟩ | ⟨rest, rfl, -⟩
        · cases hhead
        · exact hbefore (.placeholder name) (by simp)

theorem not_declaredBefore (htidy : Segment.Tidy template.segments) {name : String}
    (h : template.FirstOffence returned (.unbound name)) {position : Nat}
    (hposition : position ∈ template.strays) : ¬template.DeclaredBefore returned position := by
  obtain ⟨segments⟩ := template
  obtain ⟨before, segment, after, rfl, hbefore, hoffends⟩ := h
  cases hoffends with
  | undeclared hname =>
    intro hdeclared
    refine hname (hdeclared before name after rfl ?_)
    rw [strays_append_of_isSound htidy hbefore] at hposition
    obtain ⟨later, hlater, rfl⟩ := hposition
    have hvalid := htidy.isValid name (List.mem_append_right _ List.mem_cons_self)
    rw [strays_placeholder hvalid] at hlater
    obtain ⟨further, -, rfl⟩ := hlater
    rw [byteLength_chars_placeholder]
    dsimp only
    omega

end FirstOffence

end Template

/-! ### Failures of a builder -/

namespace Draft.WellFormed

variable {draft : Draft}

theorem build_eq_error_iff (h : draft.WellFormed) {error : FormatError} :
    draft.builder.build = .error error ↔
      draft.builder.template.FirstOffence draft.returned error := by
  rw [Builder.build_eq_error_iff, Builder.firstFault?_eq_some_iff h.isAssigned_iff]
  simp only [Nat.zero_add]
  rfl

theorem build_eq_malformed_iff (h : draft.WellFormed) {position : Nat} {fault : PlaceholderFault} :
    draft.builder.build = .error (.malformed position fault) ↔
      fault = .reservedSequence ∧ IsLeast draft.builder.template.strays position ∧
        draft.builder.template.DeclaredBefore draft.returned position := by
  have htidy : Segment.Tidy draft.builder.template.segments := h.tidy.reverse
  constructor
  · exact fun hbuild => (h.build_eq_error_iff.1 hbuild).isLeast_strays htidy
  · rintro ⟨rfl, hleast, hdeclared⟩
    cases hbuild : draft.builder.build with
    | ok message =>
      obtain ⟨⟨hmarker, hassigned⟩, -⟩ := Builder.build_eq_ok_iff.1 hbuild
      have hsound : ∀ segment ∈ draft.builder.template.segments,
          segment.IsSound draft.returned := by
        intro segment hsegment
        cases segment with
        | literal text => exact markerAt?_eq_none_iff.1 (hmarker text hsegment)
        | placeholder name => exact (h.isAssigned_iff name).1 (hassigned name hsegment)
      rw [Template.strays_eq_empty htidy hsound] at hleast
      exact absurd hleast.1 (Set.notMem_empty position)
    | error error =>
      have hoffence := h.build_eq_error_iff.1 hbuild
      cases error with
      | malformed found fault =>
        obtain ⟨rfl, hfound, -⟩ := hoffence.isLeast_strays htidy
        rw [hfound.unique hleast]
      | unbound name => exact absurd hdeclared (hoffence.not_declaredBefore htidy hleast.1)
      | argumentCount expected actual =>
        obtain ⟨before, segment, after, -, -, hoffends⟩ := hoffence
        cases hoffends

theorem build_eq_unbound_iff (h : draft.WellFormed) {name : String} :
    draft.builder.build = .error (.unbound name) ↔
      ∃ before after, draft.builder.template.segments = before ++ .placeholder name :: after ∧
        name ∉ draft.returned ∧
        (∀ other, .placeholder other ∈ before → other ∈ draft.returned) ∧
        ∀ text, .literal text ∈ before → ¬['{', '$'] <:+: text.toList := by
  rw [h.build_eq_error_iff]
  constructor
  · rintro ⟨before, segment, after, hsegments, hbefore, hoffends⟩
    cases hoffends with
    | undeclared hname =>
      exact ⟨before, after, hsegments, hname, fun other hother => hbefore _ hother,
        fun text htext => hbefore _ htext⟩
  · rintro ⟨before, after, hsegments, hname, hdeclared, hclear⟩
    refine ⟨before, _, after, hsegments, fun segment hsegment => ?_, .undeclared hname⟩
    cases segment with
    | literal text => exact hclear text hsegment
    | placeholder other => exact hdeclared other hsegment

end Draft.WellFormed

/-! ### Failures that stay -/

namespace Builder

theorem firstFault?_append (namer : Namer) (position : Nat) (left right : List Segment) :
    firstFault? namer position (left ++ right) =
      (firstFault? namer position left).or
        (firstFault? namer (position + (Template.mk left).source.utf8ByteSize) right) := by
  induction left generalizing position with
  | nil => rfl
  | cons segment left ih =>
    rw [List.cons_append, Template.utf8ByteSize_source_cons, ← Nat.add_assoc]
    cases segment with
    | literal text =>
      rw [firstFault?, firstFault?]
      cases markerAt? text.toList with
      | some index => rfl
      | none => rw [Segment.chars, byteLength_toList, ih]
    | placeholder name =>
      rw [firstFault?, firstFault?]
      split
      · rw [Template.byteLength_chars_placeholder, byteLength_toList, ih, Nat.add_assoc position]
      · rfl

theorem firstFault?_mono {namer more : Namer}
    (h : ∀ name, namer.isAssigned name = true → more.isAssigned name = true) {position place : Nat}
    {fault : PlaceholderFault} {segments : List Segment}
    (hfault : firstFault? namer position segments = some (.malformed place fault)) :
    firstFault? more position segments = some (.malformed place fault) := by
  induction segments generalizing position with
  | nil => cases hfault
  | cons segment segments ih =>
    cases segment with
    | literal text =>
      rw [firstFault?] at hfault ⊢
      cases hmarker : markerAt? text.toList with
      | some index => rwa [hmarker] at hfault
      | none =>
        rw [hmarker] at hfault
        exact ih hfault
    | placeholder name =>
      rw [firstFault?] at hfault ⊢
      by_cases hname : namer.isAssigned name = true
      · rw [if_pos hname] at hfault
        rw [if_pos (h name hname)]
        exact ih hfault
      · rw [if_neg hname] at hfault
        cases hfault

theorem firstFault?_appendText {namer : Namer} {collected : List Segment} {error : FormatError}
    (h : firstFault? namer 0 collected.reverse = some error) (literal : String) :
    firstFault? namer 0 (appendText literal collected).reverse = some error := by
  -- The text that is appended may lengthen the literal at fault, but not in front of its marker.
  match collected with
  | .literal before :: rest =>
    rw [appendText, List.reverse_cons, firstFault?_append]
    rw [List.reverse_cons, firstFault?_append] at h
    cases hrest : firstFault? namer 0 rest.reverse with
    | some fault => rwa [hrest] at h
    | none =>
      rw [hrest, Option.none_or, firstFault?] at h
      rw [Option.none_or, firstFault?]
      cases hmarker : markerAt? before.toList with
      | none =>
        rw [hmarker] at h
        cases h
      | some index =>
        rw [hmarker] at h
        rw [String.toList_append, markerAt?_append_of_some hmarker]
        exact h
  | [] => cases h
  | .placeholder name :: rest =>
    show firstFault? namer 0 (if literal.isEmpty then .placeholder name :: rest
      else .literal literal :: .placeholder name :: rest).reverse = some error
    split
    · exact h
    · rw [List.reverse_cons, firstFault?_append, h]
      rfl

end Builder

namespace Draft

/-- No call makes a marker go away or moves it. -/
theorem build_call_eq_malformed {draft next : Draft} {call : Call}
    (hnext : draft.call call = some next) {position : Nat} {fault : PlaceholderFault}
    (h : draft.builder.build = .error (.malformed position fault)) :
    next.builder.build = .error (.malformed position fault) := by
  rw [Builder.build_eq_error_iff] at h ⊢
  cases call with
  | describe text =>
    obtain rfl := Option.some.inj hnext
    exact h
  | declare natural =>
    obtain rfl := Option.some.inj hnext
    exact Builder.firstFault?_mono (fun name hname => Namer.isAssigned_assign.2 (.inr hname)) h
  | text literal =>
    obtain rfl := Option.some.inj hnext
    exact Builder.firstFault?_appendText h literal
  | placeholder source =>
    obtain ⟨name, -, rfl⟩ := Option.map_eq_some_iff.1 hnext
    show Builder.firstFault? _ 0 (_ :: draft.builder.collected).reverse = _
    rw [List.reverse_cons, Builder.firstFault?_append]
    exact congrArg (Option.or · _) h

theorem build_perform_eq_malformed {draft later : Draft} {calls : List Call}
    (hlater : draft.perform calls = some later) {position : Nat} {fault : PlaceholderFault}
    (h : draft.builder.build = .error (.malformed position fault)) :
    later.builder.build = .error (.malformed position fault) :=
  perform_invariant (P := fun draft => draft.builder.build = .error (.malformed position fault))
    (fun _ _ _ hdraft hnext => build_call_eq_malformed hnext hdraft) hlater h

theorem isAssigned_iff_of_perform {draft later : Draft} {calls : List Call}
    (hlater : draft.perform calls = some later)
    (h : ∀ name, draft.builder.namer.isAssigned name = true ↔ name ∈ draft.returned) :
    ∀ name, later.builder.namer.isAssigned name = true ↔ name ∈ later.returned := by
  refine perform_invariant (P := fun draft => ∀ name,
    draft.builder.namer.isAssigned name = true ↔ name ∈ draft.returned) ?_ hlater h
  intro draft next call hdraft hnext
  cases call with
  | declare natural =>
    obtain rfl := Option.some.inj hnext
    exact Namer.isAssigned_assign_iff_mem hdraft natural
  | describe _ | text _ =>
    obtain rfl := Option.some.inj hnext
    exact hdraft
  | placeholder source =>
    obtain ⟨name, -, rfl⟩ := Option.map_eq_some_iff.1 hnext
    exact hdraft

theorem build_ne_unbound {draft : Draft} {name : String}
    (h : ∀ name, draft.builder.namer.isAssigned name = true ↔ name ∈ draft.returned)
    (hname : name ∈ draft.returned) : draft.builder.build ≠ .error (.unbound name) := by
  rw [Ne, Builder.build_eq_error_iff, Builder.firstFault?_eq_some_iff h]
  rintro ⟨before, segment, after, -, -, hoffends⟩
  cases hoffends with
  | undeclared hmissing => exact hmissing hname

end Draft

/-- For every builder of every run, building fails at the first segment that is not sound, with what is wrong with it. It reports a marker exactly if the written form of the segments has a stray marker and every placeholder before the first one is declared, and the position is that of the first stray; it reports a name exactly if this is the first placeholder that is not declared and no literal before it holds a marker. Whatever calls follow, a marker is reported again, at the same position, and a name is not reported once the builder has returned it. -/
theorem Workbench.build_fails_at_first_offence (steps : List Step) (draft : Draft)
    (h : draft ∈ (run steps).drafts) :
    (∀ error, draft.builder.build = .error error ↔
      draft.builder.template.FirstOffence draft.returned error) ∧
    (∀ position fault, draft.builder.build = .error (.malformed position fault) ↔
      fault = .reservedSequence ∧ IsLeast draft.builder.template.strays position ∧
        draft.builder.template.DeclaredBefore draft.returned position) ∧
    (∀ name, draft.builder.build = .error (.unbound name) ↔
      ∃ before after, draft.builder.template.segments = before ++ .placeholder name :: after ∧
        name ∉ draft.returned ∧
        (∀ other, .placeholder other ∈ before → other ∈ draft.returned) ∧
        ∀ text, .literal text ∈ before → ¬['{', '$'] <:+: text.toList) ∧
    ∀ calls later, draft.perform calls = some later →
      (∀ position, draft.builder.build = .error (.malformed position .reservedSequence) →
        later.builder.build = .error (.malformed position .reservedSequence)) ∧
      ∀ name ∈ later.returned, later.builder.build ≠ .error (.unbound name) := by
  have hdraft := (wellFormed_run steps).drafts draft h
  refine ⟨fun error => hdraft.build_eq_error_iff,
    fun position fault => hdraft.build_eq_malformed_iff,
    fun name => hdraft.build_eq_unbound_iff, fun calls later hlater =>
      ⟨fun position => Draft.build_perform_eq_malformed hlater, fun name =>
        Draft.build_ne_unbound (Draft.isAssigned_iff_of_perform hlater hdraft.isAssigned_iff)⟩⟩

/-- A builder that is given the slot of another, behind text in which a marker is cut in two. -/
def Workbench.splitting : List Step :=
  [.new "other", .declare 0 "stranger", .new "main", .declare 1 "arg", .placeholder 1 1,
    .text 1 "é\x7b", .text 1 "$5\x7d", .placeholder 1 0]

/-- The marker is found at its byte, behind the placeholder and a character of two bytes, and is still found there when the stranger has been declared and more text has come. -/
theorem Workbench.build_fails_at_first_offence_splitting :
    ∃ draft ∈ (run splitting).drafts, ∃ later,
      draft.builder.build = .error (.malformed 8 .reservedSequence) ∧
      IsLeast draft.builder.template.strays 8 ∧
      draft.perform [.declare "_stranger", .placeholder (.own 1), .text "\x7b$"] = some later ∧
      later.builder.build = .error (.malformed 8 .reservedSequence) ∧
      later.builder.build ≠ .error (.unbound "stranger") := by
  have hdraft : 1 < (run splitting).drafts.length := by decide
  have hmem := List.getElem_mem hdraft
  have hbuild : (run splitting).drafts[1].builder.build =
      .error (.malformed 8 .reservedSequence) := rfl
  obtain ⟨-, hmalformed, -, hlater⟩ := build_fails_at_first_offence splitting _ hmem
  obtain ⟨hstays, hreturned⟩ :=
    hlater [.declare "_stranger", .placeholder (.own 1), .text "\x7b$"] _ rfl
  have hnames : "stranger" ∈ ["arg", "stranger"] := by decide
  exact ⟨_, hmem, _, hbuild, ((hmalformed 8 _).1 hbuild).2.1, rfl, hstays 8 hbuild,
    hreturned "stranger" hnames⟩

end Phrasebook
