import Mathlib.Data.List.DropRight
import Replex.Data.Text

namespace Replex.Data.Text

/-! Looking for a character or a pattern in a text put together from parts. -/

theorem forall_ne_of_not_mem {char : Char} {chars : List Char}
    (absent : char ∉ chars) :
    ∀ other ∈ chars, decide (other ≠ char) = true := by
  intro other listed
  rw [decide_eq_true_eq]
  rintro rfl
  exact absent listed

theorem takeWhile_append_cons {p : Char → Bool} {front rest : List Char}
    {char : Char} (passed : ∀ other ∈ front, p other = true)
    (stops : p char = false) :
    (front ++ char :: rest).takeWhile p = front := by
  rw [List.takeWhile_append_of_pos passed,
    List.takeWhile_cons_of_neg (by rw [stops]; decide), List.append_nil]

theorem dropWhile_append_cons {p : Char → Bool} {front rest : List Char}
    {char : Char} (passed : ∀ other ∈ front, p other = true)
    (stops : p char = false) :
    (front ++ char :: rest).dropWhile p = char :: rest := by
  rw [List.dropWhile_append_of_pos passed,
    List.dropWhile_cons_of_neg (by rw [stops]; decide)]

theorem head?_splitOn (separator : Char) (text : List Char) :
    (text.splitOn separator).head? =
      some (text.takeWhile fun char => decide (char ≠ separator)) := by
  induction text with
  | nil => rfl
  | cons char rest hypothesis =>
      rw [List.splitOn_cons_eq_if_modifyHead, List.takeWhile_cons]
      by_cases same : char = separator
      · simp [same]
      · cases pieces : rest.splitOn separator with
        | nil => exact absurd pieces (List.splitOn_ne_nil separator rest)
        | cons head tail =>
            rw [pieces, List.head?_cons, Option.some.injEq] at hypothesis
            simp [same, hypothesis]

theorem head?_split (separator : Char) (text : String) :
    (split separator text).head? =
      some (String.ofList (text.toList.takeWhile fun char =>
        decide (char ≠ separator))) := by
  rw [split, List.head?_map, head?_splitOn]
  rfl

/-! Trimming at the end. -/

theorem rdropWhile_cons (p : Char → Bool) (char : Char) (rest : List Char) :
    (char :: rest).rdropWhile p =
      if rest.rdropWhile p = [] then
        if p char then [] else [char]
      else
        char :: rest.rdropWhile p := by
  unfold List.rdropWhile
  rw [List.reverse_cons, List.dropWhile_append]
  cases rest.reverse.dropWhile p with
  | nil =>
      rw [List.isEmpty_nil, if_pos rfl, List.dropWhile_cons]
      split <;> rfl
  | cons last others => simp

theorem rdropWhile_append_cons {p : Char → Bool} {char : Char}
    (stops : p char = false) (front back : List Char) :
    (front ++ char :: back).rdropWhile p =
      front ++ char :: back.rdropWhile p := by
  induction front with
  | nil =>
      rw [List.nil_append, List.nil_append, rdropWhile_cons, stops]
      split
      next empty => rw [empty]; rfl
      next => rfl
  | cons first front hypothesis =>
      rw [List.cons_append, rdropWhile_cons, hypothesis, if_neg (by simp)]
      rfl

/-- It does not matter which end is trimmed first. -/
theorem trimList_eq (text : List Char) :
    trimList text =
      (text.rdropWhile isWhiteSpace).dropWhile isWhiteSpace := by
  change (text.dropWhile isWhiteSpace).rdropWhile isWhiteSpace = _
  induction text with
  | nil => rfl
  | cons char rest hypothesis =>
      rw [rdropWhile_cons, List.dropWhile_cons]
      by_cases white : isWhiteSpace char = true
      · rw [if_pos white, hypothesis, if_pos white]
        split
        next empty => rw [empty]
        next => rw [List.dropWhile_cons, if_pos white]
      · rw [if_neg white, rdropWhile_cons, if_neg white]
        split
        · rw [List.dropWhile_cons, if_neg white]
        · rw [List.dropWhile_cons, if_neg white]

/-! Patterns whose first character does not come again. -/

section

variable {first : Char} {pattern front rest : List Char}

/-- Such a pattern does not reach from one part into the next, if that begins
where a pattern may begin. -/
theorem not_prefix_append (once : first ∉ pattern) (inside : front ≠ [])
    (absent : ¬ first :: pattern <+: front)
    (starts : ∀ char ∈ rest.head?, char = first) :
    ¬ first :: pattern <+: front ++ rest := by
  intro found
  rcases List.prefix_or_prefix_of_prefix found (List.prefix_append front rest)
    with early | ⟨back, whole⟩
  · exact absent early
  · rw [← whole, List.prefix_append_right_inj] at found
    cases front with
    | nil => exact inside rfl
    | cons char front =>
        rw [List.cons_append, List.cons.injEq] at whole
        cases back with
        | nil =>
            apply absent
            rw [← whole.1, ← whole.2, List.append_nil]
        | cons next back =>
            obtain ⟨later, same⟩ := found
            have again : next = first := by
              apply starts
              rw [← same]
              rfl
            apply once
            rw [← whole.2, again]
            simp

theorem splitTextList_append (once : first ∉ pattern)
    (absent : ¬ first :: pattern <:+: front)
    (starts : ∀ char ∈ rest.head?, char = first) (fuel : Nat)
    (piece : List Char) :
    splitTextList (first :: pattern) (fuel + front.length) piece
        (front ++ rest) =
      splitTextList (first :: pattern) fuel (front.reverse ++ piece)
        rest := by
  induction front generalizing piece with
  | nil => rfl
  | cons char front hypothesis =>
      have here : ¬ first :: pattern <+: (char :: front) ++ rest :=
        not_prefix_append once (List.cons_ne_nil _ _)
          (fun found => absent found.isInfix) starts
      have later : ¬ first :: pattern <:+: front := fun found =>
        absent (found.trans (List.suffix_cons char front).isInfix)
      have none : ¬ (first :: pattern ≠ [] ∧
          (first :: pattern).isPrefixOf (char :: (front ++ rest)) = true) := by
        rintro ⟨-, found⟩
        exact here (List.isPrefixOf_iff_prefix.mp found)
      rw [List.length_cons, ← Nat.add_assoc, List.cons_append, splitTextList,
        if_neg none, hypothesis later, List.reverse_cons, List.append_assoc]
      rfl

theorem splitTextList_pattern (fuel : Nat) (piece : List Char) :
    splitTextList (first :: pattern) (fuel + 1) piece
        (first :: pattern ++ rest) =
      piece.reverse :: splitTextList (first :: pattern) fuel [] rest := by
  have found : first :: pattern ≠ [] ∧
      (first :: pattern).isPrefixOf (first :: (pattern ++ rest)) = true := by
    refine ⟨List.cons_ne_nil _ _, List.isPrefixOf_iff_prefix.mpr ?_⟩
    exact List.prefix_append (first :: pattern) rest
  rw [List.cons_append, splitTextList, if_pos found]
  simp

end

theorem contains_iff_infix {text part : String} :
    contains text part = true ↔ part.toList <:+: text.toList := by
  unfold contains
  rw [List.any_eq_true, List.infix_iff_prefix_suffix]
  simp only [List.mem_tails, List.isPrefixOf_iff_prefix]
  exact ⟨fun ⟨tail, suffix, start⟩ => ⟨tail, start, suffix⟩,
    fun ⟨tail, start, suffix⟩ => ⟨tail, suffix, start⟩⟩

/-- What follows the last separator of a text. -/
theorem after_last_separator {separator : Char}
    {front other back rest : List Char} (absent : separator ∉ back)
    (none : separator ∉ rest)
    (same : front ++ separator :: back = other ++ separator :: rest) :
    back = rest := by
  have taken (left right : List Char) (free : separator ∉ right) :
      (left ++ separator :: right).reverse.takeWhile
        (fun char => decide (char ≠ separator)) = right.reverse := by
    have passed := forall_ne_of_not_mem (fun listed =>
      free (List.mem_reverse.mp listed))
    rw [List.reverse_append, List.reverse_cons, List.append_assoc]
    exact takeWhile_append_cons passed (by simp)
  have ends := congrArg (fun text : List Char =>
    text.reverse.takeWhile fun char => decide (char ≠ separator)) same
  simp only [taken front back absent, taken other rest none] at ends
  exact List.reverse_injective ends

end Replex.Data.Text
