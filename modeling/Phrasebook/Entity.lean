import Phrasebook.Text.Cut
import Phrasebook.Text.Numeral

/-!
# Character references and escape modes

A reference is an ampersand, a body of at most `maxBodyLength` bytes and a semicolon. The body is one of a few names, or `#` and decimal digits, or `#x` and hexadecimal digits. Decoding replaces each reference by its character and leaves everything else as it is: an ampersand that opens no reference is copied and the scan goes on right after it, and a character that a reference produced is never read again.

The escape mode says what becomes of references in the literal text of a template. A mode has two spellings: the keyword that settings and data hold, and the option that a command line takes.
-/

namespace Phrasebook.Entity

open Phrasebook.Text

/-- Bodies that take more bytes than this are plain text. -/
def maxBodyLength : Nat := 32

/-- The named references, with the character each one stands for. -/
def names : List (String × Char) :=
  [("amp", '&'), ("lt", '<'), ("gt", '>'), ("quot", '"'), ("apos", '\''),
   ("nbsp", '\u00a0'), ("copy", '\u00a9'), ("reg", '\u00ae'), ("trade", '\u2122'),
   ("hellip", '\u2026'), ("mdash", '\u2014'), ("ndash", '\u2013'),
   ("laquo", '\u00ab'), ("raquo", '\u00bb')]

/-- The character of a named reference; names are case-sensitive. -/
def named? (body : List Char) : Option Char :=
  (names.find? fun entry => entry.1.toList = body).map (·.2)

/-- The scalar value with this number, which may not be zero. -/
def scalar? (value : Nat) : Option Char :=
  if value = 0 then none else character? value

/-- The character with the number that a text writes in a base. The text holds digits only, so the sign that a word may have is refused here. -/
def numbered? (base : UInt32) (digits : List Char) : Option Char :=
  if digits.isEmpty || !digits.all (isDigitOf base.toNat) then none
  else (word? base digits).bind fun word => scalar? word.toNat

/-- The character of a numeric reference, given the body without its `#`. -/
def numeric? : List Char → Option Char
  | 'x' :: digits => numbered? 16 digits
  | 'X' :: digits => numbered? 16 digits
  | digits => numbered? 10 digits

/-- The character that the body of a reference stands for. -/
def resolve? : List Char → Option Char
  | '#' :: number => numeric? number
  | name => named? name

/-- Reads the rest of a reference whose ampersand has been read: its character, and the text after its semicolon. -/
def reference? (text : List Char) : Option (Char × List Char) :=
  match cutWithin? ';' maxBodyLength text with
  | some (body, after) => (resolve? body).map fun c => (c, after)
  | none => none

theorem length_lt_of_reference? {text after : List Char} {c : Char}
    (h : reference? text = some (c, after)) : after.length < text.length := by
  unfold reference? at h
  split at h
  · next body rest hcut =>
    obtain ⟨d, -, heq⟩ := Option.map_eq_some_iff.1 h
    obtain ⟨rfl, rfl⟩ := Prod.mk.inj heq
    exact length_lt_of_cutWithin? hcut
  · simp at h

/-- Decodes `text` behind output that is already decoded and held in reverse. -/
def decodeBehind (output : List Char) : List Char → List Char
  | [] => output.reverse
  | c :: rest =>
    if c = '&' then
      match _h : reference? rest with
      | some (d, after) => decodeBehind (d :: output) after
      | none => decodeBehind (c :: output) rest
    else decodeBehind (c :: output) rest
termination_by text => text.length
decreasing_by
  · exact Nat.lt_succ_of_lt (length_lt_of_reference? _h)
  · exact Nat.lt_succ_self _
  · exact Nat.lt_succ_self _

/-- Replaces every reference in a list of characters. -/
def decodeChars (text : List Char) : List Char :=
  decodeBehind [] text

/-- Replaces every reference in `text` by its character; a text without an ampersand is returned as it is. -/
def decode (text : String) : String :=
  if text.toList.contains '&' then String.ofList (decodeChars text.toList) else text

theorem decodeBehind_cons_of_ne {c : Char} (hc : c ≠ '&') (output rest : List Char) :
    decodeBehind output (c :: rest) = decodeBehind (c :: output) rest := by
  rw [decodeBehind, if_neg hc]

theorem decodeBehind_amp_of_none {rest : List Char} (h : reference? rest = none)
    (output : List Char) :
    decodeBehind output ('&' :: rest) = decodeBehind ('&' :: output) rest := by
  rw [decodeBehind, if_pos rfl]
  split <;> simp_all

theorem decodeBehind_amp_of_some {rest after : List Char} {c : Char}
    (h : reference? rest = some (c, after)) (output : List Char) :
    decodeBehind output ('&' :: rest) = decodeBehind (c :: output) after := by
  rw [decodeBehind, if_pos rfl]
  split <;> simp_all

theorem decodeBehind_eq (output text : List Char) :
    decodeBehind output text = output.reverse ++ decodeChars text := by
  unfold decodeChars
  induction hn : text.length using Nat.strongRecOn generalizing output text with
  | ind n ih =>
    subst hn
    match text with
    | [] => simp [decodeBehind]
    | c :: rest =>
      by_cases hc : c = '&'
      · subst hc
        match href : reference? rest with
        | none =>
          rw [decodeBehind_amp_of_none href, decodeBehind_amp_of_none href,
            ih rest.length (by simp) _ rest rfl, ih rest.length (by simp) ['&'] rest rfl]
          simp
        | some (d, after) =>
          have hlt : after.length < ('&' :: rest).length :=
            Nat.lt_succ_of_lt (length_lt_of_reference? href)
          rw [decodeBehind_amp_of_some href, decodeBehind_amp_of_some href,
            ih after.length hlt _ after rfl, ih after.length hlt [d] after rfl]
          simp
      · rw [decodeBehind_cons_of_ne hc, decodeBehind_cons_of_ne hc,
          ih rest.length (by simp) _ rest rfl, ih rest.length (by simp) [c] rest rfl]
        simp

@[simp] theorem decodeChars_nil : decodeChars [] = [] := by
  simp [decodeChars, decodeBehind]

theorem decodeChars_cons_of_ne {c : Char} (hc : c ≠ '&') (rest : List Char) :
    decodeChars (c :: rest) = c :: decodeChars rest := by
  rw [decodeChars, decodeBehind_cons_of_ne hc, decodeBehind_eq]
  rfl

theorem decodeChars_amp_of_none {rest : List Char} (h : reference? rest = none) :
    decodeChars ('&' :: rest) = '&' :: decodeChars rest := by
  rw [decodeChars, decodeBehind_amp_of_none h, decodeBehind_eq]
  rfl

theorem decodeChars_amp_of_some {rest after : List Char} {c : Char}
    (h : reference? rest = some (c, after)) :
    decodeChars ('&' :: rest) = c :: decodeChars after := by
  rw [decodeChars, decodeBehind_amp_of_some h, decodeBehind_eq]
  rfl

end Phrasebook.Entity

namespace Phrasebook

/-- What becomes of references in literal text. -/
inductive EscapeMode where
  | preserve
  | unescape
  deriving DecidableEq, Repr, Inhabited

namespace EscapeMode

/-- The modes, in the order in which they are listed to a reader. -/
def all : List EscapeMode := [preserve, unescape]

/-- The keyword of a mode in settings and data. -/
def keyword : EscapeMode → String
  | preserve => "PRESERVE_ENTITIES"
  | unescape => "UNESCAPE_ENTITIES"

def ofKeyword? (text : String) : Option EscapeMode :=
  all.find? fun mode => mode.keyword == text

/-- The spelling of a mode on a command line. -/
def option : EscapeMode → String
  | preserve => "preserve-entities"
  | unescape => "unescape-entities"

/-- The mode with this command-line spelling; `ignoreCase` lets ASCII letters differ in case. -/
def ofOption? (text : String) (ignoreCase : Bool) : Option EscapeMode :=
  all.find? fun mode =>
    if ignoreCase then mode.option.toList.map Char.toLower == text.toList.map Char.toLower
    else mode.option == text

/-- What a mode makes of one piece of literal text. -/
def apply (mode : EscapeMode) (literal : String) : String :=
  match mode with
  | preserve => literal
  | unescape => Entity.decode literal

end EscapeMode

end Phrasebook
