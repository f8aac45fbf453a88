import Mathlib.Data.List.Nodup
import Replex.Data.Text

namespace Replex.Data.XmlText

/-! Start tags of XML as they may be written, and the text that their
attributes stand for. -/

def isSpace (char : Char) : Bool :=
  char == ' ' || char == '\t' || char == '\n' || char == '\r'

def isChar (code : Nat) : Bool :=
  code == 0x9 || code == 0xA || code == 0xD ||
    decide (0x20 ≤ code ∧ code ≤ 0xD7FF) ||
    decide (0xE000 ≤ code ∧ code ≤ 0xFFFD) ||
    decide (0x10000 ≤ code ∧ code ≤ 0x10FFFF)

def charOf? (code : Nat) : Option Char :=
  if isChar code then some (Char.ofNat code) else none

def digit? (char : Char) : Option Nat :=
  if char.isDigit then some (char.toNat - 48)
  else if 'a' ≤ char ∧ char ≤ 'f' then some (char.toNat - 87)
  else if 'A' ≤ char ∧ char ≤ 'F' then some (char.toNat - 55)
  else none

def numeral? (base : Nat) (digits : List Char) : Option Nat :=
  if digits = [] then none
  else
    digits.foldlM (fun value char =>
      ((digit? char).filter fun digit => decide (digit < base)).map
        (base * value + ·)) 0

/-- What stands between `&` and `;`. -/
def reference? (name : List Char) : Option Char :=
  match String.ofList name with
  | "amp" => some '&'
  | "lt" => some '<'
  | "gt" => some '>'
  | "quot" => some '"'
  | "apos" => some (Char.ofNat 0x27)
  | _ =>
      match name with
      | '#' :: 'x' :: digits => (numeral? 16 digits).bind charOf?
      | '#' :: digits => (numeral? 10 digits).bind charOf?
      | _ => none

/-- `pending` holds the name of an open reference backwards. White space as
such becomes a space, and a line break of two characters is one of them. -/
def attValueFrom? (pending : Option (List Char)) :
    List Char → Option (List Char)
  | [] => if pending.isNone then some [] else none
  | char :: rest =>
      match pending with
      | some name =>
          if char = ';' then
            (reference? name.reverse).bind fun meant =>
              (attValueFrom? none rest).map (meant :: ·)
          else
            attValueFrom? (some (char :: name)) rest
      | none =>
          if char = '&' then attValueFrom? (some []) rest
          else if char = '\r' ∧ rest.head? = some '\n' then
            attValueFrom? none rest
          else
            (attValueFrom? none rest).map
              ((if isSpace char then ' ' else char) :: ·)

/-- The text that is meant by the text between the quotes. -/
def attValue? (written : List Char) : Option (List Char) :=
  attValueFrom? none written

example : attValue? "Tom &amp; Jo&#x21;".toList = some "Tom & Jo!".toList := by
  decide +kernel

/-- Neither a reference nor white space other than the space. -/
def Plain (written : List Char) : Prop :=
  ∀ char ∈ written, char ≠ '&' ∧ (isSpace char = true → char = ' ')

instance (written : List Char) : Decidable (Plain written) :=
  List.decidableBAll _ _

theorem length_attValueFrom? {pending : Option (List Char)}
    {written meant : List Char}
    (read : attValueFrom? pending written = some meant) :
    meant.length ≤ written.length := by
  induction written generalizing pending meant with
  | nil =>
      cases pending with
      | none =>
          cases read
          exact Nat.le_refl _
      | some name => cases read
  | cons char rest hypothesis =>
      rw [List.length_cons]
      cases pending with
      | some name =>
          rw [attValueFrom?] at read
          split at read
          · obtain ⟨first, -, mapped⟩ := Option.bind_eq_some_iff.mp read
            obtain ⟨others, later, rfl⟩ := Option.map_eq_some_iff.mp mapped
            exact Nat.succ_le_succ (hypothesis later)
          · exact Nat.le_succ_of_le (hypothesis read)
      | none =>
          rw [attValueFrom?] at read
          split at read
          · exact Nat.le_succ_of_le (hypothesis read)
          · split at read
            · exact Nat.le_succ_of_le (hypothesis read)
            · obtain ⟨others, later, rfl⟩ := Option.map_eq_some_iff.mp read
              exact Nat.succ_le_succ (hypothesis later)

/-- A value stands for itself exactly if it is plain. -/
theorem attValue?_self_iff {written : List Char} :
    attValue? written = some written ↔ Plain written := by
  unfold attValue?
  induction written with
  | nil => simp [attValueFrom?, Plain]
  | cons char rest hypothesis =>
      have shorter {pending : Option (List Char)} :
          attValueFrom? pending rest ≠ some (char :: rest) := by
        intro read
        have length := length_attValueFrom? read
        rw [List.length_cons] at length
        omega
      unfold Plain
      rw [List.forall_mem_cons]
      change _ ↔ _ ∧ Plain rest
      rw [← hypothesis, attValueFrom?]
      by_cases reference : char = '&'
      · rw [if_pos reference]
        exact iff_of_false shorter fun plain => plain.1.1 reference
      · rw [if_neg reference]
        by_cases lines : char = '\r' ∧ rest.head? = some '\n'
        · rw [if_pos lines]
          refine iff_of_false shorter fun plain => ?_
          have space := plain.1.2 (by rw [lines.1]; rfl)
          rw [lines.1] at space
          exact absurd space (by decide)
        · rw [if_neg lines, Option.map_eq_some_iff]
          by_cases space : isSpace char = true
          · simp [reference, space, eq_comm, and_comm]
          · simp [reference, space]

/-! Tags. -/

structure Space where
  chars : List Char
  blank : ∀ char ∈ chars, isSpace char = true

/-- A value between double quotes: what is written and what it means. -/
structure AttValue where
  written : List Char
  legal : ∀ char ∈ written, isChar char.toNat = true
  noQuote : '"' ∉ written
  noLess : '<' ∉ written
  meant : List Char
  decodes : attValue? written = some meant

/-- Names may hold more here than they may in XML, but no white space. -/
def isNameChar (char : Char) : Bool :=
  !Text.isWhiteSpace char && !("=\"<>&/".toList.contains char)

structure Attribute where
  before : Space
  separated : before.chars ≠ []
  name : String
  named : name ≠ ""
  nameChars : ∀ char ∈ name.toList, isNameChar char = true
  beforeEquals : Space
  afterEquals : Space
  value : AttValue

structure StartTag where
  attributes : List Attribute
  distinct : (attributes.map Attribute.name).Nodup
  beforeEnd : Space
  empty : Bool

namespace Attribute

variable (attr : Attribute)

/-- The text of an attribute from its name up to its value. -/
def opening : List Char :=
  attr.name.toList ++ attr.beforeEquals.chars ++
    '=' :: attr.afterEquals.chars ++ ['"']

def text : List Char :=
  attr.before.chars ++ attr.opening ++ attr.value.written ++ ['"']

/-- The attribute as it stands there, without regard to references. -/
def writing : String × String :=
  (attr.name, String.ofList attr.value.written)

def meaning : String × String :=
  (attr.name, String.ofList attr.value.meant)

end Attribute

/-- All that follows the name of the element. -/
def StartTag.text (tag : StartTag) : List Char :=
  tag.attributes.flatMap Attribute.text ++ tag.beforeEnd.chars ++
    if tag.empty then ['/', '>'] else ['>']

theorem isWhiteSpace_of_isSpace {char : Char} (space : isSpace char = true) :
    Text.isWhiteSpace char = true := by
  simp only [isSpace, Bool.or_eq_true, beq_iff_eq] at space
  rcases space with ((rfl | rfl) | rfl) | rfl <;> decide

theorem Space.not_mem (space : Space) {char : Char}
    (other : isSpace char = false) : char ∉ space.chars := by
  intro listed
  rw [space.blank char listed] at other
  cases other

theorem Space.count_quote (space : Space) : space.chars.count '"' = 0 :=
  List.count_eq_zero.mpr (space.not_mem (by decide))

theorem Space.isWhiteSpace (space : Space) {char : Char}
    (listed : char ∈ space.chars) : Text.isWhiteSpace char = true :=
  isWhiteSpace_of_isSpace (space.blank char listed)

namespace Attribute

variable (attr : Attribute)

theorem not_mem_name {char : Char} (other : isNameChar char = false) :
    char ∉ attr.name.toList := by
  intro listed
  rw [attr.nameChars char listed] at other
  cases other

/-- Outside of its value an attribute has no character that is special to a
tag, but for the two quotes and the sign between name and value. -/
theorem not_mem_opening {char : Char} (space : isSpace char = false)
    (name : isNameChar char = false) (equals : char ≠ '=')
    (quote : char ≠ '"') : char ∉ attr.opening := by
  unfold opening
  simp [attr.not_mem_name name, attr.beforeEquals.not_mem space,
    attr.afterEquals.not_mem space, equals, quote]

theorem not_mem_text {char : Char} (space : isSpace char = false)
    (name : isNameChar char = false) (equals : char ≠ '=')
    (quote : char ≠ '"') (value : char ∉ attr.value.written) :
    char ∉ attr.text := by
  unfold text
  simp [attr.before.not_mem space, attr.not_mem_opening space name equals
    quote, value, quote]

/-- The one before the value. -/
theorem count_quote_opening : attr.opening.count '"' = 1 := by
  have name := List.count_eq_zero.mpr
    (attr.not_mem_name (show isNameChar '"' = false by decide))
  simp [opening, List.count_append, name, Space.count_quote]

end Attribute

theorem StartTag.text_ne_nil (tag : StartTag) : tag.text ≠ [] := by
  unfold text
  cases tag.empty <;> simp

theorem StartTag.not_mem_text (tag : StartTag) : '<' ∉ tag.text := by
  have attributes : '<' ∉ tag.attributes.flatMap Attribute.text := by
    intro listed
    obtain ⟨attr, -, among⟩ := List.mem_flatMap.mp listed
    exact attr.not_mem_text (by decide) (by decide) (by decide) (by decide)
      attr.value.noLess among
  have space := tag.beforeEnd.not_mem (show isSpace '<' = false by decide)
  unfold text
  cases tag.empty <;> simp [attributes, space]

end Replex.Data.XmlText
