import Mathlib.Data.List.Infix

namespace Replex.Data

/-! Character-level string operations. They work on `String.toList`, so that
closed texts evaluate in the kernel. -/

namespace Text

def startsWith (text start : String) : Bool :=
  start.toList.isPrefixOf text.toList

def endsWith (text suffix : String) : Bool :=
  suffix.toList.isSuffixOf text.toList

def stripPrefix? (text start : String) : Option String :=
  (start.toList.isPrefixOf? text.toList).map String.ofList

def contains (text part : String) : Bool :=
  text.toList.tails.any part.toList.isPrefixOf

def split (separator : Char) (text : String) : List String :=
  (text.toList.splitOn separator).map String.ofList

def splitLast (separator : Char) (text : String) : String :=
  ((split separator text).getLast?).getD ""

def isWhiteSpace (char : Char) : Bool :=
  let code := char.toNat
  decide (9 ≤ code ∧ code ≤ 13) || code == 0x20 || code == 0x85 ||
    code == 0xA0 || code == 0x1680 || decide (0x2000 ≤ code ∧ code ≤ 0x200A) ||
    code == 0x2028 || code == 0x2029 || code == 0x202F || code == 0x205F ||
    code == 0x3000

def trimList (text : List Char) : List Char :=
  ((text.dropWhile isWhiteSpace).reverse.dropWhile isWhiteSpace).reverse

def trim (text : String) : String :=
  String.ofList (trimList text.toList)

def trimEndMatches (char : Char) (text : String) : String :=
  String.ofList (text.toList.reverse.dropWhile (· == char)).reverse

def toAsciiUppercase (text : String) : String :=
  String.ofList (text.toList.map Char.toUpper)

def toAsciiLowercase (text : String) : String :=
  String.ofList (text.toList.map Char.toLower)

def eqIgnoreAsciiCase (left right : String) : Bool :=
  left.toList.map Char.toLower == right.toList.map Char.toLower

/-- The length in bytes. -/
def len (text : String) : Nat :=
  text.toList.foldr (fun char bytes => char.utf8Size + bytes) 0

def isAsciiHexdigit (char : Char) : Bool :=
  char.isDigit || ('a' ≤ char && char ≤ 'f') || ('A' ≤ char && char ≤ 'F')

/-- Lower-casing of one character. Besides `A` to `Z` only the Kelvin sign is
mapped: it is the one other character whose lower case is an ASCII letter, so
comparisons with ASCII words come out as under the full Unicode mapping. -/
def lowerChar (char : Char) : Char :=
  if char.toNat = 0x212A then 'k' else char.toLower

def toLowercase (text : String) : String :=
  String.ofList (text.toList.map lowerChar)

def stripSuffix? (text suffix : String) : Option String :=
  if suffix.toList <:+ text.toList then
    some (String.ofList
      (text.toList.take (text.toList.length - suffix.toList.length)))
  else
    none

/-- Replace every occurrence of a nonempty pattern, left to right. -/
def replaceList (pattern replacement : List Char) : Nat → List Char → List Char
  | 0, text => text
  | _ + 1, [] => []
  | fuel + 1, char :: rest =>
      if pattern ≠ [] ∧ pattern.isPrefixOf (char :: rest) then
        replacement ++ replaceList pattern replacement fuel
          ((char :: rest).drop pattern.length)
      else
        char :: replaceList pattern replacement fuel rest

def replace (text pattern replacement : String) : String :=
  String.ofList (replaceList pattern.toList replacement.toList
    text.toList.length text.toList)

/-- The pieces of a text between the occurrences of a nonempty pattern, found
left to right; `piece` holds the current one backwards. -/
def splitTextList (pattern : List Char) :
    Nat → List Char → List Char → List (List Char)
  | 0, piece, _ => [piece.reverse]
  | _ + 1, piece, [] => [piece.reverse]
  | fuel + 1, piece, char :: rest =>
      if pattern ≠ [] ∧ pattern.isPrefixOf (char :: rest) then
        piece.reverse ::
          splitTextList pattern fuel [] ((char :: rest).drop pattern.length)
      else
        splitTextList pattern fuel (char :: piece) rest

def splitText (pattern text : String) : List String :=
  (splitTextList pattern.toList (text.toList.length + 1) [] text.toList).map
    String.ofList

/-- What stands before and after the first occurrence of a character. -/
def splitOnceList (separator : Char) (text : List Char) :
    Option (List Char × List Char) :=
  match text.dropWhile (· ≠ separator) with
  | [] => none
  | _ :: rest => some (text.takeWhile (· ≠ separator), rest)

/-- Where the first occurrence of a part starts. -/
def findList (part : List Char) : List Char → Option Nat
  | [] => if part.isEmpty then some 0 else none
  | char :: rest =>
      if part.isPrefixOf (char :: rest) then
        some 0
      else
        (findList part rest).map (· + 1)

/-- The bytes of a text in UTF-8. -/
def toUtf8 (text : String) : List UInt8 :=
  text.toByteArray.data.toList

def fromUtf8? (bytes : List UInt8) : Option String :=
  String.fromUTF8? ⟨bytes.toArray⟩

@[simp] theorem startsWith_append (start rest : String) :
    startsWith (start ++ rest) start = true := by
  simp [startsWith, List.isPrefixOf_iff_prefix]

theorem split_append {separator : Char} {text : String}
    (single : text.toList = [separator]) (left right : String) :
    split separator (left ++ text ++ right) =
      split separator left ++ split separator right := by
  simp [split, single, List.splitOn_append_cons_self]

theorem split_of_not_mem {separator : Char} {text : String}
    (absent : separator ∉ text.toList) : split separator text = [text] := by
  simp [split, List.splitOn_eq_singleton absent]

theorem split_intercalate {symbol : Char} {separator : String}
    (single : separator.toList = [symbol]) {texts : List String}
    (some : texts ≠ []) (absent : ∀ text ∈ texts, symbol ∉ text.toList) :
    split symbol (separator.intercalate texts) = texts := by
  have plain : ∀ chars ∈ texts.map String.toList, symbol ∉ chars := by
    intro chars listed
    obtain ⟨text, member, rfl⟩ := List.mem_map.mp listed
    exact absent text member
  unfold split
  rw [String.toList_intercalate, single,
    List.splitOn_intercalate symbol plain (by simpa using some), List.map_map]
  simp [Function.comp_def]

theorem mem_intercalate {symbol : Char} {separator : String}
    (single : separator.toList = [symbol]) {texts : List String} {char : Char}
    (listed : char ∈ (separator.intercalate texts).toList) :
    char = symbol ∨ ∃ text ∈ texts, char ∈ text.toList := by
  induction texts with
  | nil => simp at listed
  | cons text texts hypothesis =>
      by_cases last : texts = []
      · subst last
        rw [String.intercalate_singleton] at listed
        exact .inr ⟨text, List.mem_cons_self, listed⟩
      · rw [String.intercalate_cons_of_ne_nil last] at listed
        simp only [String.toList_append, List.mem_append, single,
          List.mem_singleton] at listed
        rcases listed with (early | between) | late
        · exact .inr ⟨text, List.mem_cons_self, early⟩
        · exact .inl between
        · rcases hypothesis late with between | ⟨later, member, held⟩
          · exact .inl between
          · exact .inr ⟨later, List.mem_cons_of_mem text member, held⟩

theorem mem_of_mem_splitOn {separator char : Char} {text part : List Char}
    (listed : part ∈ text.splitOn separator) (held : char ∈ part) :
    char ∈ text ∧ char ≠ separator := by
  induction text generalizing part with
  | nil =>
      rw [List.splitOn_nil, List.mem_singleton] at listed
      simp [listed] at held
  | cons first rest hypothesis =>
      rw [List.splitOn_cons_eq_if_modifyHead] at listed
      split at listed
      · rcases List.mem_cons.mp listed with rfl | later
        · simp at held
        · have found := hypothesis later held
          exact ⟨List.mem_cons_of_mem first found.1, found.2⟩
      · rename_i other
        cases pieces : rest.splitOn separator with
        | nil => exact absurd pieces (List.splitOn_ne_nil separator rest)
        | cons head tail =>
            rw [pieces, List.modifyHead_cons] at listed
            rw [pieces] at hypothesis
            rcases List.mem_cons.mp listed with rfl | later
            · rcases List.mem_cons.mp held with rfl | inner
              · exact ⟨List.mem_cons_self, by simpa using other⟩
              · have found := hypothesis List.mem_cons_self inner
                exact ⟨List.mem_cons_of_mem first found.1, found.2⟩
            · have found :=
                hypothesis (List.mem_cons_of_mem head later) held
              exact ⟨List.mem_cons_of_mem first found.1, found.2⟩

theorem mem_of_mem_split {separator char : Char} {text part : String}
    (listed : part ∈ split separator text) (held : char ∈ part.toList) :
    char ∈ text.toList ∧ char ≠ separator := by
  obtain ⟨chars, member, rfl⟩ := List.mem_map.mp listed
  exact mem_of_mem_splitOn member (by simpa using held)

theorem splitOn_append_of_not_mem {separator : Char} {front : List Char}
    (absent : separator ∉ front) (rest : List Char) :
    (front ++ rest).splitOn separator =
      (rest.splitOn separator).modifyHead (front ++ ·) := by
  induction front with
  | nil =>
      cases pieces : rest.splitOn separator with
      | nil => exact absurd pieces (List.splitOn_ne_nil separator rest)
      | cons head tail => simp [pieces]
  | cons char front hypothesis =>
      obtain ⟨other, later⟩ := not_or.mp (List.mem_cons.not.mp absent)
      rw [List.cons_append, List.splitOn_cons_eq_if_modifyHead,
        hypothesis later, if_neg (by simpa using Ne.symm other),
        List.modifyHead_modifyHead]
      rfl

theorem eq_of_toLower_eq {char lower : Char} (small : lower.toNat < 97)
    (same : char.toLower = lower) : char = lower := by
  unfold Char.toLower at same
  split at same
  next upper =>
    have first : 65 ≤ char.val.toNat := upper.1
    have last : char.val.toNat ≤ 90 := upper.2
    have shift : (32 : UInt32).toNat = 32 := rfl
    have shifted : (char.val + 32).toNat = lower.toNat :=
      congrArg Char.toNat same
    rw [UInt32.toNat_add, Nat.mod_eq_of_lt (by omega)] at shifted
    omega
  next => exact same

theorem isAsciiHexdigit_toLower {char : Char}
    (hex : isAsciiHexdigit char.toLower = true) :
    (char.toLower.isDigit ||
      ('a' ≤ char.toLower && char.toLower ≤ 'f')) = true := by
  unfold isAsciiHexdigit at hex
  rw [Bool.or_eq_true] at hex
  rcases hex with lower | upper
  · exact lower
  · simp only [Bool.and_eq_true, decide_eq_true_eq, Char.le_def,
      UInt32.le_iff_toNat_le] at upper
    obtain ⟨first, last⟩ := upper
    change 65 ≤ char.toLower.toNat at first
    change char.toLower.toNat ≤ 70 at last
    -- A letter in upper case does not come out of the lower-casing.
    have same := eq_of_toLower_eq (by omega) (Eq.refl char.toLower)
    rw [← same] at first last
    have upper : char.val ≥ 'A'.val ∧ char.val ≤ 'Z'.val := by
      constructor
      · exact UInt32.le_iff_toNat_le.mpr first
      · exact UInt32.le_iff_toNat_le.mpr (by
          change char.toNat ≤ 90
          omega)
    have shifted : char.toLower.toNat = char.toNat + 32 := by
      unfold Char.toLower
      rw [dif_pos upper]
      change (char.val + 32).toNat = char.val.toNat + 32
      have bound : char.val.toNat ≤ 70 := last
      have shift : (32 : UInt32).toNat = 32 := rfl
      rw [UInt32.toNat_add, shift, Nat.mod_eq_of_lt (by omega)]
    rw [← same] at shifted
    omega

theorem utf8Size_of_isAsciiHexdigit {char : Char}
    (hex : isAsciiHexdigit char = true) : char.utf8Size = 1 := by
  rw [Char.utf8Size_eq_one_iff, UInt32.le_iff_toNat_le]
  change char.val.toNat ≤ 127
  simp only [isAsciiHexdigit, Char.isDigit, Bool.or_eq_true,
    Bool.and_eq_true, decide_eq_true_eq, Char.le_def,
    UInt32.le_iff_toNat_le] at hex
  rcases hex with (⟨-, high⟩ | ⟨-, high⟩) | ⟨-, high⟩
  · change char.val.toNat ≤ 57 at high
    omega
  · change char.val.toNat ≤ 102 at high
    omega
  · change char.val.toNat ≤ 70 at high
    omega

theorem len_of_all_isAsciiHexdigit {text : String}
    (hex : text.toList.all isAsciiHexdigit = true) :
    len text = text.toList.length := by
  unfold len
  generalize text.toList = chars at hex
  induction chars with
  | nil => rfl
  | cons char chars hypothesis =>
      rw [List.all_cons, Bool.and_eq_true] at hex
      rw [List.foldr_cons, hypothesis hex.2,
        utf8Size_of_isAsciiHexdigit hex.1, List.length_cons, Nat.add_comm]

theorem splitOnceList_of_not_mem {separator : Char} {text : List Char}
    (absent : separator ∉ text) : splitOnceList separator text = none := by
  have all : text.dropWhile (· ≠ separator) = [] := by
    induction text with
    | nil => rfl
    | cons char rest hypothesis =>
        obtain ⟨other, later⟩ := not_or.mp (List.mem_cons.not.mp absent)
        rw [List.dropWhile_cons_of_pos (by simpa using Ne.symm other),
          hypothesis later]
  rw [splitOnceList, all]

theorem splitOnceList_append {separator : Char} {front : List Char}
    (absent : separator ∉ front) (rest : List Char) :
    splitOnceList separator (front ++ separator :: rest) =
      some (front, rest) := by
  have plain : ∀ char ∈ front, decide (char ≠ separator) = true := by
    intro char listed
    have other : char ≠ separator := by
      rintro rfl
      exact absent listed
    exact decide_eq_true other
  unfold splitOnceList
  rw [List.dropWhile_append_of_pos plain, List.takeWhile_append_of_pos plain]
  simp

theorem findList_eq_some_iff {part text : List Char} {index : Nat} :
    findList part text = some index ↔
      index ≤ text.length ∧ part <+: text.drop index ∧
        ∀ earlier < index, ¬ part <+: text.drop earlier := by
  induction text generalizing index with
  | nil =>
      unfold findList
      split
      next empty =>
        have none : part = [] := by simpa using empty
        subst none
        constructor
        · intro same
          cases same
          simp
        · rintro ⟨bound, -, -⟩
          cases Nat.le_zero.mp bound
          rfl
      next some =>
        have full : part ≠ [] := by simpa using some
        simp [full]
  | cons char rest hypothesis =>
      unfold findList
      split
      next found =>
        have start := List.isPrefixOf_iff_prefix.mp found
        constructor
        · intro same
          cases same
          exact ⟨Nat.zero_le _, start, by simp⟩
        · rintro ⟨-, -, first⟩
          cases index with
          | zero => rfl
          | succ index => exact absurd start (first 0 (Nat.succ_pos index))
      next missed =>
        have absent : ¬ part <+: char :: rest := by
          rwa [List.isPrefixOf_iff_prefix] at missed
        cases index with
        | zero => simp [absent]
        | succ index =>
            rw [Option.map_eq_some_iff]
            simp only [Nat.add_right_cancel_iff, exists_eq_right, hypothesis,
              List.length_cons, List.drop_succ_cons, Nat.add_le_add_iff_right]
            constructor
            · rintro ⟨bound, start, first⟩
              refine ⟨bound, start, ?_⟩
              intro earlier before
              cases earlier with
              | zero => exact absent
              | succ earlier =>
                  exact first earlier (Nat.lt_of_succ_lt_succ before)
            · rintro ⟨bound, start, first⟩
              refine ⟨bound, start, ?_⟩
              intro earlier before
              exact first (earlier + 1) (Nat.succ_lt_succ before)

theorem contains_iff_mem {symbol : Char} {part : String}
    (single : part.toList = [symbol]) {text : String} :
    contains text part = true ↔ symbol ∈ text.toList := by
  unfold contains
  rw [single]
  generalize text.toList = chars
  induction chars with
  | nil => simp
  | cons char chars hypothesis =>
      have head : [symbol].isPrefixOf (char :: chars) = (symbol == char) := by
        simp [List.isPrefixOf]
      rw [List.tails_cons, List.any_cons, Bool.or_eq_true, hypothesis, head,
        beq_iff_eq, List.mem_cons]

theorem count_replace {symbol : Char} {pattern : String}
    (absent : symbol ∉ pattern.toList) (text : String) :
    (replace text pattern "").toList.count symbol =
      text.toList.count symbol := by
  have run (fuel : Nat) (chars : List Char) :
      (replaceList pattern.toList [] fuel chars).count symbol =
        chars.count symbol := by
    induction fuel generalizing chars with
    | zero => rfl
    | succ fuel hypothesis =>
        cases chars with
        | nil => rfl
        | cons char rest =>
            rw [replaceList]
            split
            next found =>
              obtain ⟨tail, same⟩ := List.isPrefixOf_iff_prefix.mp found.2
              rw [List.nil_append, hypothesis, ← same, List.drop_left,
                List.count_append, List.count_eq_zero_of_not_mem absent,
                Nat.zero_add]
            next => rw [List.count_cons, hypothesis, List.count_cons]
  rw [replace, String.toList_ofList]
  exact run _ _

theorem replaceList_of_not_mem {symbol : Char} {pattern : List Char}
    (needed : symbol ∈ pattern) (replacement : List Char) (fuel : Nat)
    {chars : List Char} (absent : symbol ∉ chars) :
    replaceList pattern replacement fuel chars = chars := by
  induction fuel generalizing chars with
  | zero => rfl
  | succ fuel hypothesis =>
      cases chars with
      | nil => rfl
      | cons char rest =>
          have missing : ¬ (pattern ≠ [] ∧
              pattern.isPrefixOf (char :: rest) = true) := by
            rintro ⟨-, found⟩
            exact absent ((List.isPrefixOf_iff_prefix.mp found).subset needed)
          rw [replaceList, if_neg missing,
            hypothesis fun member => absent (List.mem_cons_of_mem char member)]

/-- A text without one of the pattern's characters has no occurrence of it. -/
theorem replace_of_not_mem {symbol : Char} {text pattern : String}
    (needed : symbol ∈ pattern.toList) (absent : symbol ∉ text.toList)
    (replacement : String) : replace text pattern replacement = text := by
  rw [replace, replaceList_of_not_mem needed _ _ absent, String.ofList_toList]

theorem replaceList_of_le {pattern replacement : List Char} {fuel : Nat}
    {chars : List Char} (enough : chars.length ≤ fuel) :
    replaceList pattern replacement fuel chars =
      replaceList pattern replacement chars.length chars := by
  induction fuel using Nat.strong_induction_on generalizing chars with
  | h fuel hypothesis =>
      cases chars with
      | nil => cases fuel <;> rfl
      | cons char rest =>
          cases fuel with
          | zero => cases enough
          | succ fuel =>
              simp only [List.length_cons] at enough ⊢
              rw [replaceList, replaceList]
              split
              next found =>
                have nonempty : 0 < pattern.length :=
                  List.length_pos_of_ne_nil found.1
                have shorter : ((char :: rest).drop pattern.length).length ≤
                    rest.length := by
                  simp only [List.length_drop, List.length_cons]
                  omega
                rw [hypothesis fuel (by omega) (by omega)]
                by_cases same : rest.length = fuel
                · rw [same, hypothesis fuel (by omega) (by omega)]
                · rw [hypothesis rest.length (by omega) shorter]
              next =>
                rw [hypothesis fuel (by omega) (by omega)]

theorem replace_pattern_append {pattern : String}
    (nonempty : pattern.toList ≠ []) (rest replacement : String) :
    replace (pattern ++ rest) pattern replacement =
      replacement ++ replace rest pattern replacement := by
  apply String.toList_injective
  unfold replace
  cases chars : pattern.toList with
  | nil => exact absurd chars nonempty
  | cons char more =>
      have found : (char :: more).isPrefixOf
          (char :: (more ++ rest.toList)) = true :=
        List.isPrefixOf_iff_prefix.mpr (List.prefix_append _ _)
      have dropped : (char :: (more ++ rest.toList)).drop
          (char :: more).length = rest.toList := by
        rw [← List.cons_append, List.drop_left]
      simp only [String.toList_append, chars, List.cons_append,
        List.length_cons, List.length_append, String.toList_ofList]
      rw [replaceList, if_pos ⟨List.cons_ne_nil _ _, found⟩, dropped,
        replaceList_of_le (by omega)]

/-- Text before the first character of a pattern stays in front. -/
theorem replace_append_of_not_mem {symbol : Char} {pattern : String}
    {more : List Char} (starts : pattern.toList = symbol :: more)
    {text : String} (absent : symbol ∉ text.toList)
    (rest replacement : String) :
    replace (text ++ rest) pattern replacement =
      text ++ replace rest pattern replacement := by
  have run (chars tail : List Char) (absent : symbol ∉ chars) :
      replaceList (symbol :: more) replacement.toList
          (chars.length + tail.length) (chars ++ tail) =
        chars ++ replaceList (symbol :: more) replacement.toList tail.length
          tail := by
    induction chars with
    | nil => simp
    | cons char chars hypothesis =>
        have other : symbol ≠ char := by
          rintro rfl
          exact absent List.mem_cons_self
        have later : symbol ∉ chars :=
          fun member => absent (List.mem_cons_of_mem char member)
        have missing : ¬ (symbol :: more ≠ [] ∧
            (symbol :: more).isPrefixOf (char :: (chars ++ tail)) = true) := by
          simp [List.isPrefixOf, other]
        have length : (char :: chars).length + tail.length =
            chars.length + tail.length + 1 := by
          rw [List.length_cons]
          omega
        rw [length, List.cons_append, replaceList, if_neg missing,
          hypothesis later, List.cons_append]
  apply String.toList_injective
  unfold replace
  rw [starts]
  simp only [String.toList_append, String.toList_ofList, List.length_append]
  exact run _ _ absent

def Blank (text : List Char) : Prop :=
  ∀ char ∈ text, isWhiteSpace char = true

theorem trimList_append {before after : List Char} (leading : Blank before)
    (trailing : Blank after) (text : List Char) :
    trimList (before ++ (text ++ after)) = trimList text := by
  have reversed : Blank after.reverse :=
    fun char listed => trailing char (List.mem_reverse.mp listed)
  unfold trimList
  rw [List.dropWhile_append_of_pos leading, List.dropWhile_append]
  split
  next none =>
      have all : (after ++ []).dropWhile isWhiteSpace =
          [].dropWhile isWhiteSpace := List.dropWhile_append_of_pos trailing
      rw [List.append_nil] at all
      rw [List.isEmpty_iff.mp none, all, List.dropWhile_nil]
  next => rw [List.reverse_append, List.dropWhile_append_of_pos reversed]

theorem trim_append {before after : String} (leading : Blank before.toList)
    (trailing : Blank after.toList) (text : String) :
    trim (before ++ text ++ after) = trim text := by
  rw [trim, String.toList_append, String.toList_append, List.append_assoc,
    trimList_append leading trailing, trim]

theorem trim_of_no_whiteSpace {text : String}
    (none : ∀ char ∈ text.toList, isWhiteSpace char = false) :
    trim text = text := by
  have kept : ∀ chars : List Char,
      (∀ char ∈ chars, isWhiteSpace char = false) →
      chars.dropWhile isWhiteSpace = chars := by
    intro chars plain
    cases chars with
    | nil => rfl
    | cons char chars =>
        rw [List.dropWhile_cons_of_neg]
        simp [plain char List.mem_cons_self]
  unfold trim trimList
  rw [kept _ none, kept text.toList.reverse, List.reverse_reverse,
    String.ofList_toList]
  intro char listed
  exact none char (List.mem_reverse.mp listed)

theorem fromUtf8?_eq_some_iff {bytes : List UInt8} {text : String} :
    fromUtf8? bytes = some text ↔ bytes = toUtf8 text := by
  unfold fromUtf8? String.fromUTF8? toUtf8
  constructor
  · intro read
    split at read
    · cases read
      rfl
    · cases read
  · intro same
    subst same
    have valid : ByteArray.IsValidUTF8
        ⟨text.toByteArray.data.toList.toArray⟩ := text.isValidUTF8
    rw [dif_pos valid]
    rfl

theorem toUtf8_eq_nil_iff {text : String} : toUtf8 text = [] ↔ text = "" := by
  constructor
  · intro empty
    have same := fromUtf8?_eq_some_iff.mpr (rfl : toUtf8 text = toUtf8 text)
    have other := fromUtf8?_eq_some_iff.mpr (rfl : toUtf8 "" = toUtf8 "")
    rw [empty] at same
    exact Option.some.inj (same.symm.trans other)
  · rintro rfl
    rfl

end Text

end Replex.Data
