import Replex.Routes.LibraryKeys

namespace Replex

open Data

/-! Keys of artwork, and the Plex tokens that artwork requests carry inside
their `url` parameter. -/

abbrev PhotoRequest : Type := LibraryRequest

def tokenMarker : List Char := "x-plex-token=".toList

def isUrlName (name : String) : Bool :=
  Text.eqIgnoreAsciiCase name "url"

/-- The position right behind the marker. -/
def innerTokenStart? (value : List Char) : Option Nat :=
  (Text.findList tokenMarker (value.map Char.toLower)).map
    (· + tokenMarker.length)

def endsInnerToken (char : Char) : Bool :=
  char == '&' || char == '#'

def extractInnerToken (value : List Char) : Option (List Char) :=
  match innerTokenStart? value with
  | none => none
  | some start =>
      let remainder := value.drop start
      let token := remainder.takeWhile fun char => !endsInnerToken char
      if token.isEmpty then none else some token

def isInnerTokenPair (pair : List Char) : Bool :=
  match Text.splitOnceList '=' pair with
  | none => false
  | some (key, _) => key.map Char.toLower == "x-plex-token".toList

def stripInnerToken (value : List Char) : List Char :=
  match Text.splitOnceList '?' value with
  | none => value
  | some (base, query) =>
      let kept := (query.splitOn '&').filter fun pair => !isInnerTokenPair pair
      if kept.isEmpty then base else base ++ '?' :: ['&'].intercalate kept

/-- The first values are looked at in the order of the multimap. -/
def photoRequestToken (codec : TargetCodec) (order : KeyOrder)
    (request : PhotoRequest) : Option String :=
  match requestToken codec order request with
  | some token => some token
  | none =>
      match (order.iterate (codec.queries request.target)).find?
          fun pair => isUrlName pair.1 with
      | none => none
      | some pair => (extractInnerToken pair.2.toList).map String.ofList

/-- The nested value is cleaned only under the name `url` itself. -/
def photoPairs (pairs : List (String × String)) : List (String × String) :=
  (pairs.filter fun pair =>
      !Text.eqIgnoreAsciiCase pair.1 "X-Plex-Token").map fun pair =>
    if pair.1 = "url" then
      (pair.1, String.ofList (stripInnerToken pair.2.toList))
    else
      pair

def canonicalPhotoKey (codec : TargetCodec) (raw : String) : String :=
  match codec.urlPath? raw with
  | some path =>
      "photo:http://x" ++ path ++ "?" ++
        codec.serialize (photoPairs (codec.pairs raw))
  | none => "photo:" ++ raw

/-! The nested query. -/

def nestedParameters (value : List Char) : List (List Char) :=
  match Text.splitOnceList '?' value with
  | none => []
  | some (_, query) => query.splitOn '&'

theorem splitOnceList_cases (separator : Char) (text : List Char) :
    separator ∉ text ∨ ∃ front rest, text = front ++ separator :: rest ∧
      separator ∉ front ∧
        Text.splitOnceList separator text = some (front, rest) := by
  by_cases present : separator ∈ text
  · obtain ⟨front, rest, same, absent⟩ := List.eq_append_cons_of_mem present
    refine .inr ⟨front, rest, same, absent, ?_⟩
    rw [same, Text.splitOnceList_append absent]
  · exact .inl present

/-- Stripping keeps every nested parameter but the tokens, in order. -/
theorem nestedParameters_stripInnerToken (value : List Char) :
    nestedParameters (stripInnerToken value) =
      (nestedParameters value).filter fun pair => !isInnerTokenPair pair := by
  rcases splitOnceList_cases '?' value with
    absent | ⟨base, query, -, absent, parts⟩
  · have none := Text.splitOnceList_of_not_mem absent
    simp [stripInnerToken, nestedParameters, none]
  · simp only [stripInnerToken, nestedParameters, parts]
    generalize pieces : (query.splitOn '&').filter
      (fun pair => !isInnerTokenPair pair) = kept
    have plain : ∀ pair ∈ kept, '&' ∉ pair := by
      intro pair listed held
      rw [← pieces] at listed
      exact (Text.mem_of_mem_splitOn (List.mem_of_mem_filter listed) held).2
        rfl
    cases none : kept.isEmpty with
    | true =>
        rw [if_pos rfl, Text.splitOnceList_of_not_mem absent]
        exact (List.isEmpty_iff.mp none).symm
    | false =>
        have some : kept ≠ [] := by simpa using none
        rw [if_neg Bool.false_ne_true, Text.splitOnceList_append absent]
        exact List.splitOn_intercalate '&' plain some

/-! The place of a nested token. -/

/-- The text up to the token decides whether the finder stops right behind
it. -/
theorem innerTokenStart?_append {front rest : List Char} :
    innerTokenStart? (front ++ rest) = some front.length ↔
      ∃ before marker, front = before ++ marker ∧
        marker.map Char.toLower = tokenMarker ∧
          ∀ earlier < before.length,
            ¬ tokenMarker <+: (front.map Char.toLower).drop earlier := by
  unfold innerTokenStart?
  rw [Option.map_eq_some_iff]
  simp only [Text.findList_eq_some_iff, List.map_append]
  have inFront {index : Nat}
      (fits : index + tokenMarker.length ≤ front.length) :
      tokenMarker <+:
          (front.map Char.toLower ++ rest.map Char.toLower).drop index ↔
        tokenMarker <+: (front.map Char.toLower).drop index := by
    rw [List.drop_append_of_le_length (by rw [List.length_map]; omega)]
    constructor
    · intro start
      apply List.prefix_of_prefix_length_le start (List.prefix_append _ _)
      rw [List.length_drop, List.length_map]
      omega
    · intro start
      exact start.trans (List.prefix_append _ _)
  constructor
  · rintro ⟨index, ⟨-, start, first⟩, ends⟩
    have split := List.take_append_drop index front
    refine ⟨front.take index, front.drop index, split.symm, ?_, ?_⟩
    · have found := (inFront (by omega)).mp start
      rw [← List.map_drop] at found
      have same : tokenMarker.length =
          ((front.drop index).map Char.toLower).length := by
        rw [List.length_map, List.length_drop]
        omega
      exact (found.eq_of_length same).symm
    · intro earlier before
      have lower : earlier < index :=
        Nat.lt_of_lt_of_le before (List.length_take_le _ _)
      exact fun start => first earlier lower ((inFront (by omega)).mpr start)
  · rintro ⟨before, marker, rfl, spelled, first⟩
    have size : marker.length = tokenMarker.length := by
      rw [← spelled, List.length_map]
    have whole : (before ++ marker).length =
        before.length + tokenMarker.length := by
      rw [List.length_append, size]
    refine ⟨before.length, ⟨?_, ?_, ?_⟩, whole.symm⟩
    · simp only [List.length_append, List.length_map]
      omega
    · apply (inFront whole.ge).mpr
      rw [List.map_append, spelled, ← List.length_map (f := Char.toLower),
        List.drop_left]
    · intro earlier lower start
      exact first earlier lower
        ((inFront (by omega)).mp start)

/-- The token ends at an ampersand, at a fragment or with the value. -/
theorem extractInnerToken_append {front token rest : List Char}
    (start : innerTokenStart? (front ++ (token ++ rest)) =
      some front.length) :
    extractInnerToken (front ++ (token ++ rest)) = some token ↔
      token ≠ [] ∧ (∀ char ∈ token, endsInnerToken char = false) ∧
        rest.takeWhile (fun char => !endsInnerToken char) = [] := by
  simp only [extractInnerToken, start, List.drop_left]
  constructor
  · intro found
    split at found
    · cases found
    next some =>
      have same := Option.some.inj found
      have plain : ∀ char ∈ token, (!endsInnerToken char) = true := by
        intro char listed
        rw [← same] at listed
        have kept := List.mem_takeWhile_imp listed
        exact kept
      refine ⟨?_, ?_, ?_⟩
      · rintro rfl
        exact some (List.isEmpty_iff.mpr same)
      · intro char listed
        simpa using plain char listed
      · rw [List.takeWhile_append_of_pos plain] at same
        simpa using same
  · rintro ⟨some, plain, ends⟩
    have all : ∀ char ∈ token, (!endsInnerToken char) = true := by
      intro char listed
      rw [plain char listed]
      rfl
    rw [List.takeWhile_append_of_pos all, ends, List.append_nil,
      if_neg (by simpa using some)]

/-- The marker stands where a parameter of the nested query starts. -/
def MarksParameter (front : List Char) : Prop :=
  ∃ base query marker, front = base ++ '?' :: (query ++ marker) ∧
    '?' ∉ base ∧ (query = [] ∨ ∃ earlier, query = earlier ++ ['&']) ∧
      marker.map Char.toLower = tokenMarker

theorem eq_append_of_tokenMarker {marker : List Char}
    (spelled : marker.map Char.toLower = tokenMarker) :
    ∃ name, marker = name ++ ['='] ∧
      name.map Char.toLower = "x-plex-token".toList := by
  have parts : tokenMarker = "x-plex-token".toList ++ ['='] := by decide
  rw [parts, List.map_eq_append_iff] at spelled
  obtain ⟨name, last, rfl, lower, sign⟩ := spelled
  obtain ⟨char, rfl, equals⟩ := List.map_eq_singleton_iff.mp sign
  exact ⟨name, by rw [Text.eq_of_toLower_eq (by decide) equals], lower⟩

theorem not_mem_of_toLower {symbol : Char} {chars : List Char}
    (absent : symbol.toLower ∉ chars.map Char.toLower) : symbol ∉ chars :=
  fun listed => absent (List.mem_map_of_mem listed)

theorem isInnerTokenPair_marker {marker : List Char}
    (spelled : marker.map Char.toLower = tokenMarker) (rest : List Char) :
    isInnerTokenPair (marker ++ rest) = true := by
  obtain ⟨name, rfl, lower⟩ := eq_append_of_tokenMarker spelled
  have absent : '=' ∉ name := not_mem_of_toLower (by rw [lower]; decide)
  rw [isInnerTokenPair, List.append_assoc, List.singleton_append,
    Text.splitOnceList_append absent]
  simpa using lower

/-- With something before it that is no earlier marker, the name is another
one. -/
theorem not_isInnerTokenPair {segment marker : List Char}
    (spelled : marker.map Char.toLower = tokenMarker) (some : segment ≠ [])
    (first : ¬ tokenMarker <+: (segment ++ marker).map Char.toLower)
    (rest : List Char) :
    isInnerTokenPair (segment ++ (marker ++ rest)) = false := by
  obtain ⟨name, rfl, lower⟩ := eq_append_of_tokenMarker spelled
  have bare : '=' ∉ name := not_mem_of_toLower (by rw [lower]; decide)
  rcases splitOnceList_cases '=' segment with
    absent | ⟨key, value, rfl, absent, -⟩
  · have outside : '=' ∉ segment ++ name := by simp [absent, bare]
    have split : segment ++ (name ++ ['='] ++ rest) =
        (segment ++ name) ++ '=' :: rest := by simp
    rw [isInnerTokenPair, split, Text.splitOnceList_append outside]
    apply beq_false_of_ne
    intro same
    have sizes := congrArg List.length (same.trans lower.symm)
    rw [List.length_map, List.length_map, List.length_append] at sizes
    exact some (List.length_eq_zero_iff.mp (by omega))
  · have split : key ++ '=' :: value ++ (name ++ ['='] ++ rest) =
        key ++ '=' :: (value ++ (name ++ ['='] ++ rest)) := by simp
    rw [isInnerTokenPair, split, Text.splitOnceList_append absent]
    apply beq_false_of_ne
    intro same
    apply first
    have parts : tokenMarker = "x-plex-token".toList ++ ['='] := by decide
    have sign : Char.toLower '=' = '=' := by decide
    simp only [List.map_append, List.map_cons, same, parts, sign]
    exact ⟨(value ++ (name ++ ['='])).map Char.toLower, by simp⟩

/-! What stripping makes of two tokens at one place. -/

theorem splitOn_of_starts {query : List Char}
    (starts : query = [] ∨ ∃ earlier, query = earlier ++ ['&']) :
    ∃ pieces, ∀ rest : List Char,
      (query ++ rest).splitOn '&' = pieces ++ rest.splitOn '&' := by
  rcases starts with rfl | ⟨earlier, rfl⟩
  · exact ⟨[], fun rest => rfl⟩
  · refine ⟨earlier.splitOn '&', fun rest => ?_⟩
    rw [List.append_assoc, List.singleton_append,
      List.splitOn_append_cons_self]

theorem splitOn_marker {front : List Char} (absent : '&' ∉ front)
    (rest : List Char) :
    ∃ head tail, ∀ token : List Char, '&' ∉ token →
      (front ++ (token ++ rest)).splitOn '&' =
        (front ++ (token ++ head)) :: tail := by
  cases pieces : rest.splitOn '&' with
  | nil => exact absurd pieces (List.splitOn_ne_nil '&' rest)
  | cons head tail =>
      refine ⟨head, tail, ?_⟩
      intro token plain
      have outside : '&' ∉ front ++ token := by simp [absent, plain]
      rw [← List.append_assoc, Text.splitOn_append_of_not_mem outside, pieces,
        List.modifyHead_cons, List.append_assoc]

theorem ampersand_not_mem_marker {marker : List Char}
    (spelled : marker.map Char.toLower = tokenMarker) : '&' ∉ marker :=
  not_mem_of_toLower (by rw [spelled]; decide)

/-- A whole parameter goes, and its token with it. -/
theorem stripInnerToken_of_marksParameter {front : List Char}
    (marks : MarksParameter front) (rest : List Char) :
    ∃ stripped, ∀ token : List Char, '&' ∉ token →
      stripInnerToken (front ++ (token ++ rest)) = stripped := by
  obtain ⟨base, query, marker, rfl, absent, starts, spelled⟩ := marks
  obtain ⟨pieces, split⟩ := splitOn_of_starts starts
  obtain ⟨head, tail, cut⟩ :=
    splitOn_marker (ampersand_not_mem_marker spelled) rest
  let kept := (pieces ++ tail).filter fun pair => !isInnerTokenPair pair
  refine ⟨if kept.isEmpty then base else base ++ '?' :: ['&'].intercalate kept,
    fun token plain => ?_⟩
  have whole : base ++ '?' :: (query ++ marker) ++ (token ++ rest) =
      base ++ '?' :: (query ++ (marker ++ (token ++ rest))) := by simp
  have gone := isInnerTokenPair_marker spelled (token ++ head)
  rw [whole, stripInnerToken, Text.splitOnceList_append absent]
  simp only [split, cut token plain, List.filter_append, List.filter_cons,
    gone, Bool.not_true, Bool.false_eq_true, if_false, kept]

/-- Without a question mark before it, the token stays in the base. -/
theorem stripInnerToken_of_not_mem {front : List Char} (absent : '?' ∉ front)
    (rest : List Char) :
    ∃ suffix, ∀ token : List Char, '?' ∉ token →
      stripInnerToken (front ++ (token ++ rest)) =
        front ++ (token ++ suffix) := by
  rcases splitOnceList_cases '?' rest with none | ⟨lead, query, rfl, none, -⟩
  · refine ⟨rest, fun token plain => ?_⟩
    rw [stripInnerToken, Text.splitOnceList_of_not_mem
      (by simp [absent, plain, none])]
  · refine ⟨stripInnerToken (lead ++ '?' :: query), fun token plain => ?_⟩
    have outside : '?' ∉ front ++ (token ++ lead) := by
      simp [absent, plain, none]
    have split : front ++ (token ++ (lead ++ '?' :: query)) =
        (front ++ (token ++ lead)) ++ '?' :: query := by simp
    rw [split, stripInnerToken, Text.splitOnceList_append outside,
      stripInnerToken, Text.splitOnceList_append none]
    simp only
    split
    · simp
    · simp

theorem exists_last_segment (query : List Char) :
    ∃ lead segment, query = lead ++ segment ∧ '&' ∉ segment ∧
      (lead = [] ∨ ∃ earlier, lead = earlier ++ ['&']) := by
  induction query with
  | nil => exact ⟨[], [], rfl, by simp, .inl rfl⟩
  | cons char query hypothesis =>
      obtain ⟨lead, segment, rfl, absent, starts⟩ := hypothesis
      rcases starts with rfl | ⟨earlier, rfl⟩
      · by_cases same : char = '&'
        · exact ⟨['&'], segment, by rw [same]; rfl, absent, .inr ⟨[], rfl⟩⟩
        · exact ⟨[], char :: segment, rfl,
            by simp [absent, Ne.symm same], .inl rfl⟩
      · exact ⟨char :: (earlier ++ ['&']), segment, rfl, absent,
          .inr ⟨char :: earlier, rfl⟩⟩

/-- A token the finder reads elsewhere stays: a name may end in the marker, and
the marker may stand behind a second question mark, in a fragment or in the
path. -/
theorem stripInnerToken_of_not_marksParameter {front : List Char}
    {before marker : List Char} (parts : front = before ++ marker)
    (spelled : marker.map Char.toLower = tokenMarker)
    (first : ∀ earlier < before.length,
      ¬ tokenMarker <+: (front.map Char.toLower).drop earlier)
    (unmarked : ¬ MarksParameter front) (rest : List Char) :
    stripInnerToken (front ++ (['a'] ++ rest)) ≠
      stripInnerToken (front ++ (['b'] ++ rest)) := by
  intro same
  have bare : '?' ∉ marker := not_mem_of_toLower (by rw [spelled]; decide)
  rcases splitOnceList_cases '?' before with
    absent | ⟨base, query, rfl, absent, -⟩
  · obtain ⟨suffix, kept⟩ := stripInnerToken_of_not_mem
      (by simp [parts, absent, bare] : '?' ∉ front) rest
    rw [kept ['a'] (by decide), kept ['b'] (by decide),
      List.append_cancel_left_eq] at same
    simp at same
  · obtain ⟨lead, segment, rfl, plain, starts⟩ := exists_last_segment query
    have inner : segment ≠ [] := by
      rintro rfl
      apply unmarked
      refine ⟨base, lead, marker, ?_, absent, starts, spelled⟩
      rw [parts]
      simp
    have late : ¬ tokenMarker <+: (segment ++ marker).map Char.toLower := by
      have here := first (base ++ '?' :: lead).length (by
        have size := List.length_pos_iff.mpr inner
        simp only [List.length_append, List.length_cons]
        omega)
      have split : front = (base ++ '?' :: lead) ++ (segment ++ marker) := by
        rw [parts]
        simp
      rw [split, List.map_append] at here
      rwa [← List.length_map (f := Char.toLower), List.drop_left] at here
    obtain ⟨pieces, split⟩ := splitOn_of_starts starts
    obtain ⟨head, tail, cut⟩ := splitOn_marker (by
      simp [plain, ampersand_not_mem_marker spelled] :
        '&' ∉ segment ++ marker) rest
    have listed (token : List Char) (free : '&' ∉ token) :
        nestedParameters (stripInnerToken (front ++ (token ++ rest))) =
          pieces.filter (fun pair => !isInnerTokenPair pair) ++
            (segment ++ marker ++ (token ++ head)) ::
              tail.filter fun pair => !isInnerTokenPair pair := by
      have whole : front ++ (token ++ rest) =
          base ++ '?' :: (lead ++ (segment ++ marker ++ (token ++ rest))) := by
        rw [parts]
        simp
      have stays := not_isInnerTokenPair spelled inner late (token ++ head)
      rw [← List.append_assoc] at stays
      rw [nestedParameters_stripInnerToken, whole, nestedParameters,
        Text.splitOnceList_append absent]
      simp only [split, cut token free, List.filter_append, List.filter_cons,
        stays, Bool.not_false, if_true]
    have lists := congrArg nestedParameters same
    rw [listed ['a'] (by decide), listed ['b'] (by decide),
      List.append_cancel_left_eq, List.cons.injEq,
      List.append_cancel_left_eq] at lists
    simp at lists

/-! Where a request carries a token. -/

inductive TokenPlace where
  | topLevel (before after : List (String × String)) (name : String)
  | nested (before after : List (String × String)) (key : String)
      (front rest : List Char)

namespace TokenPlace

/-- The query with a token at the place. -/
def write (token : String) : TokenPlace → List (String × String)
  | topLevel before after name => before ++ (name, token) :: after
  | nested before after key front rest =>
      before ++
        (key, String.ofList (front ++ (token.toList ++ rest))) :: after

/-- The finder reads the token at the place. -/
def Reads (token : String) : TokenPlace → Prop
  | topLevel _ _ name => isTokenName name = true
  | nested _ _ key front rest =>
      isUrlName key = true ∧
        innerTokenStart? (front ++ (token.toList ++ rest)) =
            some front.length ∧
          extractInnerToken (front ++ (token.toList ++ rest)) =
            some token.toList

def Carried (codec : TargetCodec) (raw token : String) (place : TokenPlace) :
    Prop :=
  codec.pairs raw = place.write token ∧ place.Reads token

/-- Every target that differs only in the token there has the same key. -/
def HidesToken (codec : TargetCodec) (raw : String) (place : TokenPlace) :
    Prop :=
  ∀ other token, codec.urlPath? other = codec.urlPath? raw →
    place.Carried codec other token →
      canonicalPhotoKey codec other = canonicalPhotoKey codec raw

/-- A nested token is a whole parameter under the lower-case name. -/
def Cleaned : TokenPlace → Prop
  | topLevel _ _ _ => True
  | nested _ _ key front _ => key = "url" ∧ MarksParameter front

end TokenPlace

section

variable {codec : TargetCodec}

/-- The finder reads a header or a place of the query. -/
theorem exists_place_of_photoRequestToken {order : KeyOrder}
    {request : PhotoRequest} {token : String}
    (found : photoRequestToken codec order request = some token) :
    request.tokenHeader = some token ∨
      ∃ place : TokenPlace, place.Carried codec request.target token := by
  have shown {pair : String × String}
      (listed : pair ∈ order.iterate (codec.queries request.target)) :
      ∃ before after, codec.pairs request.target = before ++ pair :: after := by
    have member := MultiMap.mem_iter_iff.mp ((order.perm _).mem_iff.mp listed)
    exact List.append_of_mem (MultiMap.mem_pairs_of_get? member)
  unfold photoRequestToken at found
  split at found
  next read =>
    cases found
    unfold requestToken at read
    split at read
    next header =>
      cases read
      exact .inl header
    next =>
      obtain ⟨pair, first, rfl⟩ := Option.map_eq_some_iff.mp read
      obtain ⟨before, after, same⟩ := shown (List.mem_of_find?_eq_some first)
      have named := List.find?_some first
      exact .inr ⟨.topLevel before after pair.1, same, named⟩
  next =>
    split at found
    · cases found
    next pair first =>
      obtain ⟨chars, read, rfl⟩ := Option.map_eq_some_iff.mp found
      obtain ⟨before, after, same⟩ := shown (List.mem_of_find?_eq_some first)
      have named := List.find?_some first
      have whole := read
      unfold extractInnerToken at read
      split at read
      · cases read
      next start begins =>
        simp only at read
        split at read
        · cases read
        have fits : start ≤ pair.2.toList.length := by
          obtain ⟨index, position, rfl⟩ := Option.map_eq_some_iff.mp begins
          obtain ⟨bound, occurs, -⟩ := Text.findList_eq_some_iff.mp position
          have size := occurs.length_le
          rw [List.length_drop] at size
          rw [List.length_map] at size bound
          omega
        have split : pair.2.toList = pair.2.toList.take start ++
            (chars ++ (pair.2.toList.drop start).dropWhile fun char =>
              !endsInnerToken char) := by
          rw [← Option.some.inj read, List.takeWhile_append_dropWhile,
            List.take_append_drop]
        refine .inr ⟨.nested before after pair.1 (pair.2.toList.take start)
          ((pair.2.toList.drop start).dropWhile fun char =>
            !endsInnerToken char), ?_, named, ?_, ?_⟩
        · rw [TokenPlace.write, String.toList_ofList, ← split,
            String.ofList_toList, same]
        · rw [String.toList_ofList, ← split, begins,
            List.length_take_of_le fits]
        · rw [String.toList_ofList, ← split, whole]

theorem canonicalPhotoKey_eq_iff (faithful : codec.Faithful)
    {raw other path : String} (parsed : codec.urlPath? raw = some path)
    (otherParsed : codec.urlPath? other = some path) :
    canonicalPhotoKey codec other = canonicalPhotoKey codec raw ↔
      photoPairs (codec.pairs other) = photoPairs (codec.pairs raw) := by
  simp only [canonicalPhotoKey, parsed, otherParsed, String.append_right_inj]
  constructor
  · intro same
    exact faithful.pairs_of_serialize_eq parsed same
  · intro same
    rw [same]

theorem eqIgnoreAsciiCase_token (name : String) :
    Text.eqIgnoreAsciiCase name "X-Plex-Token" = isTokenName name := by
  have lower : "X-Plex-Token".toList.map Char.toLower =
      "x-plex-token".toList.map Char.toLower := by decide
  rw [isTokenName, Text.eqIgnoreAsciiCase, Text.eqIgnoreAsciiCase, lower]

theorem not_isTokenName_of_isUrlName {key : String}
    (named : isUrlName key = true) : isTokenName key = false := by
  rw [isUrlName, Text.eqIgnoreAsciiCase, beq_iff_eq] at named
  rw [isTokenName, Text.eqIgnoreAsciiCase, named]
  decide

theorem photoPairs_append (pairs others : List (String × String)) :
    photoPairs (pairs ++ others) = photoPairs pairs ++ photoPairs others := by
  simp [photoPairs]

theorem photoPairs_cons_of_isTokenName {name : String}
    (named : isTokenName name = true) (token : String)
    (after : List (String × String)) :
    photoPairs ((name, token) :: after) = photoPairs after := by
  simp [photoPairs, eqIgnoreAsciiCase_token, named]

theorem photoPairs_cons_of_isUrlName {key : String}
    (named : isUrlName key = true) (value : String)
    (after : List (String × String)) :
    photoPairs ((key, value) :: after) =
      (key, if key = "url" then String.ofList (stripInnerToken value.toList)
        else value) :: photoPairs after := by
  simp only [photoPairs, eqIgnoreAsciiCase_token, List.filter_cons,
    not_isTokenName_of_isUrlName named, Bool.not_false, if_true,
    List.map_cons]
  split
  · rfl
  · rfl

namespace TokenPlace

theorem Reads.ampersand_not_mem {before after : List (String × String)}
    {key : String} {front rest : List Char} {token : String}
    (reads : (nested before after key front rest).Reads token) :
    '&' ∉ token.toList := by
  obtain ⟨-, start, found⟩ := reads
  intro listed
  have plain := ((extractInnerToken_append start).mp found).2.1 _ listed
  revert plain
  decide

/-- What the finder reads behind a text depends on that text only. -/
theorem Reads.other {before after : List (String × String)} {key : String}
    {front rest : List Char} {token : String}
    (reads : (nested before after key front rest).Reads token)
    {other : String} (some : other.toList ≠ [])
    (plain : ∀ char ∈ other.toList, endsInnerToken char = false) :
    (nested before after key front rest).Reads other := by
  obtain ⟨named, start, found⟩ := reads
  have moved : innerTokenStart? (front ++ (other.toList ++ rest)) =
      Option.some front.length :=
    innerTokenStart?_append.mpr (innerTokenStart?_append.mp start)
  have ends := ((extractInnerToken_append start).mp found).2.2
  exact ⟨named, moved, (extractInnerToken_append moved).mpr
    ⟨some, plain, ends⟩⟩

theorem hidesToken_of_cleaned (faithful : codec.Faithful) {raw token : String}
    (parsed : (codec.urlPath? raw).isSome) {place : TokenPlace}
    (carried : place.Carried codec raw token) (cleaned : place.Cleaned) :
    place.HidesToken codec raw := by
  obtain ⟨path, found⟩ := Option.isSome_iff_exists.mp parsed
  intro other otherToken same otherCarried
  rw [canonicalPhotoKey_eq_iff faithful found (same.trans found),
    otherCarried.1, carried.1]
  cases place with
  | topLevel before after name =>
      rw [write, write, photoPairs_append, photoPairs_append,
        photoPairs_cons_of_isTokenName carried.2,
        photoPairs_cons_of_isTokenName carried.2]
  | nested before after key front rest =>
      obtain ⟨rfl, marks⟩ := cleaned
      obtain ⟨stripped, same⟩ := stripInnerToken_of_marksParameter marks rest
      rw [write, write, photoPairs_append, photoPairs_append,
        photoPairs_cons_of_isUrlName carried.2.1,
        photoPairs_cons_of_isUrlName carried.2.1, if_pos rfl, if_pos rfl,
        String.toList_ofList, String.toList_ofList,
        same _ otherCarried.2.ampersand_not_mem,
        same _ carried.2.ampersand_not_mem]

theorem cleaned_of_hidesToken (faithful : codec.Faithful) {raw token : String}
    (parsed : (codec.urlPath? raw).isSome) {place : TokenPlace}
    (carried : place.Carried codec raw token)
    (hides : place.HidesToken codec raw) : place.Cleaned := by
  obtain ⟨path, found⟩ := Option.isSome_iff_exists.mp parsed
  cases place with
  | topLevel before after name => trivial
  | nested before after key front rest =>
      -- The same request with the tokens `a` and `b`.
      have pairs {other : String} {letter : Char}
          (single : other.toList = [letter])
          (letters : endsInnerToken letter = false) :
          photoPairs ((nested before after key front rest).write other) =
            photoPairs (codec.pairs raw) := by
        have some : other.toList ≠ [] := by simp [single]
        have plain : ∀ char ∈ other.toList, endsInnerToken char = false := by
          simp [single, letters]
        have read := faithful.pairs_query found
          ((nested before after key front rest).write other)
        have reparsed := faithful.urlPath_query found
          ((nested before after key front rest).write other)
        have same := hides _ other (reparsed.trans found.symm)
          ⟨read, carried.2.other some plain⟩
        rw [canonicalPhotoKey_eq_iff faithful found reparsed, read] at same
        exact same
      have first : photoPairs ((nested before after key front rest).write
          "a") = photoPairs (codec.pairs raw) := pairs rfl rfl
      have second : photoPairs ((nested before after key front rest).write
          "b") = photoPairs (codec.pairs raw) := pairs rfl rfl
      have same := first.trans second.symm
      rw [write, write, photoPairs_append, photoPairs_append,
        List.append_cancel_left_eq,
        photoPairs_cons_of_isUrlName carried.2.1,
        photoPairs_cons_of_isUrlName carried.2.1, List.cons.injEq,
        Prod.mk.injEq] at same
      have values := same.1.2
      obtain ⟨earlier, marker, parts, spelled, first⟩ :=
        innerTokenStart?_append.mp carried.2.2.1
      by_cases exact : key = "url"
      · refine ⟨exact, ?_⟩
        by_contra unmarked
        simp only [if_pos exact, String.toList_ofList] at values
        exact stripInnerToken_of_not_marksParameter parts spelled first
          unmarked rest (String.ofList_injective values)
      · rw [if_neg exact, if_neg exact] at values
        have chars := String.ofList_injective values
        simp at chars

end TokenPlace

/-- The key hides the token exactly at the places that the stripper knows. -/
theorem photo_keys_hide_tokens_iff (faithful : codec.Faithful)
    {raw token : String} (parsed : (codec.urlPath? raw).isSome)
    {place : TokenPlace} (carried : place.Carried codec raw token) :
    place.HidesToken codec raw ∧
        (∀ value, nestedParameters (stripInnerToken value) =
          (nestedParameters value).filter fun pair =>
            !isInnerTokenPair pair) ↔
      place.Cleaned := by
  constructor
  · rintro ⟨hides, -⟩
    exact TokenPlace.cleaned_of_hidesToken faithful parsed carried hides
  · intro cleaned
    exact ⟨TokenPlace.hidesToken_of_cleaned faithful parsed carried cleaned,
      nestedParameters_stripInnerToken⟩

end

def artworkTarget (key front token : String) : String :=
  "/photo/:/transcode?" ++ FormUrlEncoded.serialize [(key, front ++ token)]

def artworkPlace (key front : String) : TokenPlace :=
  .nested [] [] key front.toList []

theorem pairs_artworkTarget (key front token : String) :
    formCodec.urlPath? (artworkTarget key front token) =
        some "/photo/:/transcode" ∧
      formCodec.pairs (artworkTarget key front token) =
        [(key, front ++ token)] := by
  have parsed : formCodec.urlPath? "/photo/:/transcode" =
      some "/photo/:/transcode" := by decide +kernel
  have split : artworkTarget key front token = "/photo/:/transcode" ++ "?" ++
      formCodec.serialize [(key, front ++ token)] := rfl
  rw [split]
  exact ⟨faithful_formCodec.urlPath_query parsed _,
    faithful_formCodec.pairs_query parsed _⟩

theorem photoRequestToken_artworkTarget {key front token : String}
    (reads : (artworkPlace key front).Reads token) :
    photoRequestToken formCodec plainOrder
      { target := artworkTarget key front token } = some token := by
  obtain ⟨named, -, found⟩ := reads
  have plain : Text.eqIgnoreAsciiCase key "x-plex-token" = false :=
    not_isTokenName_of_isUrlName named
  have single : plainOrder.iterate
      (formCodec.queries (artworkTarget key front token)) =
        [(key, front ++ token)] := by
    rw [TargetCodec.queries, (pairs_artworkTarget key front token).2]
    simp [plainOrder, MultiMap.iter, MultiMap.keys, MultiMap.get?,
      MultiMap.getAll]
  rw [List.append_nil] at found
  simp [photoRequestToken, requestToken, single, plain, named, found]

theorem photo_keys_hide_nested_token :
    (artworkPlace "url" "/thumb?X-Plex-Token=").HidesToken formCodec
      (artworkTarget "url" "/thumb?X-Plex-Token=" "jodie-token") := by
  obtain ⟨path, pairs⟩ :=
    pairs_artworkTarget "url" "/thumb?X-Plex-Token=" "jodie-token"
  have parsed : (formCodec.urlPath? (artworkTarget "url"
      "/thumb?X-Plex-Token=" "jodie-token")).isSome := by simp [path]
  have read : formCodec.pairs (artworkTarget "url" "/thumb?X-Plex-Token="
        "jodie-token") =
      (artworkPlace "url" "/thumb?X-Plex-Token=").write "jodie-token" := by
    rw [pairs]
    decide
  have reads : (artworkPlace "url" "/thumb?X-Plex-Token=").Reads
      "jodie-token" := ⟨by decide, by decide, by decide⟩
  have cleaned : (artworkPlace "url" "/thumb?X-Plex-Token=").Cleaned :=
    ⟨rfl, "/thumb".toList, [], "X-Plex-Token=".toList, by decide, by decide,
      .inl rfl, by decide⟩
  exact ((photo_keys_hide_tokens_iff faithful_formCodec parsed
    ⟨read, reads⟩).mpr cleaned).1

/-- Behind a second question mark the token is found and stays in the key. -/
theorem photo_keys_disclose_nested_token :
    photoRequestToken formCodec plainOrder
          { target := artworkTarget "url" "/thumb?width=300?X-Plex-Token="
              "jodie-token" } = some "jodie-token" ∧
      photoRequestToken formCodec plainOrder
          { target := artworkTarget "url" "/thumb?width=300?X-Plex-Token="
              "luke-token" } = some "luke-token" ∧
      canonicalPhotoKey formCodec
          (artworkTarget "url" "/thumb?width=300?X-Plex-Token="
            "jodie-token") ≠
        canonicalPhotoKey formCodec
          (artworkTarget "url" "/thumb?width=300?X-Plex-Token="
            "luke-token") := by
  have jodie : (artworkPlace "url" "/thumb?width=300?X-Plex-Token=").Reads
      "jodie-token" := ⟨by decide, by decide +kernel, by decide +kernel⟩
  have luke : (artworkPlace "url" "/thumb?width=300?X-Plex-Token=").Reads
      "luke-token" := ⟨by decide, by decide +kernel, by decide +kernel⟩
  refine ⟨photoRequestToken_artworkTarget jodie,
    photoRequestToken_artworkTarget luke, ?_⟩
  have nested := pairs_artworkTarget "url" "/thumb?width=300?X-Plex-Token="
  obtain ⟨jodiePath, jodiePairs⟩ := nested "jodie-token"
  obtain ⟨lukePath, lukePairs⟩ := nested "luke-token"
  rw [ne_eq, canonicalPhotoKey_eq_iff faithful_formCodec lukePath jodiePath,
    jodiePairs, lukePairs]
  decide

end Replex
