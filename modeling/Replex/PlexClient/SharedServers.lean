import Replex.Data.Records
import Replex.Data.Scanning
import Replex.Data.XmlText
import Replex.PlexClient.IdentityCache

namespace Replex

open Data Data.XmlText

/-! The list of shared servers as an XML document, and what the scan sees of
it. -/

def sharedServerStart : List Char :=
  "<SharedServer".toList

/-- Other tags and text, among which no entry starts. -/
structure Between where
  chars : List Char
  noEntry : ∀ next ∈ [' ', '\t', '\n', '\r', '/', '>'],
    ¬ sharedServerStart ++ [next] <:+: chars

structure SharedServer where
  tag : StartTag
  after : Between

structure SharedServers where
  before : Between
  entries : List SharedServer

def namedUser (token : String) (attrs : List (String × String)) :
    Option String :=
  if attrs.lookup "accessToken" = some token then
    (attrs.lookup "username").filter fun name => name ≠ ""
  else none

namespace SharedServer

variable (token : String) (entry : SharedServer)

def text : List Char :=
  sharedServerStart ++ entry.tag.text ++ entry.after.chars

/-- The user that the entry gives the token to. -/
def user : Option String :=
  namedUser token (entry.tag.attributes.map Attribute.meaning)

/-- The scan looks for one space after the name of the element. -/
def spotted : Bool :=
  entry.tag.text.head? == some ' '

/-- It takes the first `>` for the end of the tag, in a value too. -/
def scanned : List Attribute :=
  entry.tag.attributes.takeWhile fun attr => !attr.value.written.contains '>'

def scannedUser : Option String :=
  if entry.spotted then namedUser token (entry.scanned.map Attribute.writing)
  else none

end SharedServer

def SharedServers.text (servers : SharedServers) : String :=
  String.ofList
    (servers.before.chars ++ servers.entries.flatMap SharedServer.text)

/-! One attribute after the other. -/

theorem two_le_count_of_readXmlAttr? {text following : List Char}
    {attr : String × String}
    (read : readXmlAttr? text = some (attr, following)) :
    2 ≤ text.count '"' := by
  unfold readXmlAttr? at read
  split at read
  · cases read
  next _ after atEquals =>
      split at read
      next _ value atQuote =>
          split at read
          · cases read
          next _ rest atClose =>
              have closed : '"' ∈ value := by
                by_contra absent
                have none : value.dropWhile (· ≠ '"') = [] :=
                  List.dropWhile_eq_nil_iff.mpr
                    (Text.forall_ne_of_not_mem absent)
                rw [none] at atClose
                cases atClose
              have last : 0 < value.count '"' := List.count_pos_iff.mpr closed
              have inner := (List.dropWhile_sublist (l := after)
                Text.isWhiteSpace).count_le '"'
              have outer := ((List.sublist_cons_self _ after).trans
                (atEquals ▸ List.dropWhile_sublist (l := text)
                  (· ≠ '='))).count_le '"'
              rw [atQuote, List.count_cons_self] at inner
              omega
      · cases read

theorem readXmlAttr?_text (attr : Attribute) (rest : List Char) :
    readXmlAttr? (attr.opening ++ attr.value.written ++ '"' :: rest) =
      some (attr.writing, rest.dropWhile Text.isWhiteSpace) := by
  have noEquals : '=' ∉ attr.name.toList ++ attr.beforeEquals.chars := by
    rw [List.mem_append, not_or]
    exact ⟨attr.not_mem_name (by decide),
      attr.beforeEquals.not_mem (by decide)⟩
  have equals := Text.forall_ne_of_not_mem noEquals
  have quotes := Text.forall_ne_of_not_mem attr.value.noQuote
  have key : Text.trimList (attr.name.toList ++ attr.beforeEquals.chars) =
      attr.name.toList := by
    have blank : Text.Blank attr.beforeEquals.chars :=
      fun char listed => attr.beforeEquals.isWhiteSpace listed
    have trimmed : Text.trim attr.name = attr.name := by
      apply Text.trim_of_no_whiteSpace
      intro char listed
      have name := attr.nameChars char listed
      rw [isNameChar, Bool.and_eq_true, Bool.not_eq_true'] at name
      exact name.1
    calc
      _ = Text.trimList attr.name.toList :=
        @Text.trimList_append [] _ nofun blank _
      _ = (Text.trim attr.name).toList := by
        rw [Text.trim, String.toList_ofList]
      _ = attr.name.toList := congrArg String.toList trimmed
  have whole : attr.opening ++ attr.value.written ++ '"' :: rest =
      (attr.name.toList ++ attr.beforeEquals.chars) ++ '=' ::
        (attr.afterEquals.chars ++ '"' ::
          (attr.value.written ++ '"' :: rest)) := by
    simp [Attribute.opening]
  unfold readXmlAttr?
  rw [whole, Text.dropWhile_append_cons equals (by decide),
    Text.takeWhile_append_cons equals (by decide)]
  simp only
  rw [Text.dropWhile_append_cons
    (fun char listed => attr.afterEquals.isWhiteSpace listed) (by decide)]
  simp only
  rw [Text.dropWhile_append_cons quotes (by decide),
    Text.takeWhile_append_cons quotes (by decide), key]
  simp [Attribute.writing]

/-- White space before a name is passed over, and only that. -/
theorem dropWhile_text (attr : Attribute) (rest : List Char) :
    (attr.text ++ rest).dropWhile Text.isWhiteSpace =
      attr.opening ++ attr.value.written ++ '"' :: rest := by
  have split : attr.text ++ rest = attr.before.chars ++
      (attr.opening ++ attr.value.written ++ '"' :: rest) := by
    simp [Attribute.text]
  rw [split, List.dropWhile_append_of_pos fun char listed =>
    attr.before.isWhiteSpace listed]
  cases named : attr.name.toList with
  | nil => exact absurd (String.toList_eq_nil_iff.mp named) attr.named
  | cons first name =>
      have letter := attr.nameChars first (by rw [named]; simp)
      rw [isNameChar, Bool.and_eq_true, Bool.not_eq_true'] at letter
      simp [Attribute.opening, named, letter.1]

theorem parseXmlAttrsFrom_attributes (attrs : List Attribute)
    {back : List Char} (few : back.count '"' ≤ 1)
    (read : List (String × String)) :
    parseXmlAttrsFrom
        ((attrs.flatMap Attribute.text ++ back).dropWhile Text.isWhiteSpace)
        read =
      (attrs.map Attribute.writing).reverse ++ read := by
  induction attrs generalizing read with
  | nil =>
      rw [List.flatMap_nil, List.nil_append, parseXmlAttrsFrom]
      split
      · rfl
      next attr following found =>
          have quotes := two_le_count_of_readXmlAttr? found
          have fewer := (List.dropWhile_sublist (l := back)
            Text.isWhiteSpace).count_le '"'
          omega
  | cons attr attrs hypothesis =>
      rw [List.flatMap_cons, List.append_assoc, dropWhile_text,
        parseXmlAttrsFrom]
      split
      next unread =>
          rw [readXmlAttr?_text] at unread
          cases unread
      next first following found =>
          rw [readXmlAttr?_text] at found
          cases found
          rw [hypothesis, List.map_cons, List.reverse_cons,
            List.append_assoc]
          rfl

/-- What is read of a text that ends somewhere after some attributes. -/
theorem parseXmlAttrs_attributes (attrs : List Attribute) {back : List Char}
    (few : back.count '"' ≤ 1) :
    parseXmlAttrs
        (String.ofList (attrs.flatMap Attribute.text ++ back)) =
      (attrs.map Attribute.writing).reverse := by
  have fewer : (back.rdropWhile Text.isWhiteSpace).count '"' ≤ 1 :=
    ((List.rdropWhile_prefix _ back).sublist.count_le '"').trans few
  have trimmed : Text.trimList (attrs.flatMap Attribute.text ++ back) =
      (attrs.flatMap Attribute.text ++
        back.rdropWhile Text.isWhiteSpace).dropWhile Text.isWhiteSpace := by
    rw [Text.trimList_eq]
    congr 1
    cases attrs using List.reverseRecOn with
    | nil => rfl
    | append_singleton attrs last =>
        have closed (rest : List Char) :
            (attrs ++ [last]).flatMap Attribute.text ++ rest =
              (attrs.flatMap Attribute.text ++ last.before.chars ++
                last.opening ++ last.value.written) ++ '"' :: rest := by
          simp [Attribute.text]
        rw [closed, closed, Text.rdropWhile_append_cons (by decide)]
  rw [parseXmlAttrs, String.toList_ofList, trimmed,
    parseXmlAttrsFrom_attributes attrs fewer, List.append_nil]

/-! The end of a tag, as the scan sees it. -/

def passes (char : Char) : Bool :=
  decide (char ≠ '>')

theorem passes_of_not_mem {chars : List Char} (absent : '>' ∉ chars) :
    ∀ char ∈ chars, passes char = true :=
  Text.forall_ne_of_not_mem absent

theorem passes_of_space (space : Space) :
    ∀ char ∈ space.chars, passes char = true :=
  passes_of_not_mem (space.not_mem (by decide))

theorem greater_not_mem_opening (attr : Attribute) : '>' ∉ attr.opening :=
  attr.not_mem_opening (by decide) (by decide) (by decide) (by decide)

theorem exists_takeWhile_passes (attrs : List Attribute) (space : Space)
    (empty : Bool) (rest : List Char) :
    ∃ back : List Char, back.count '"' ≤ 1 ∧
      (attrs.flatMap Attribute.text ++ (space.chars ++
        (if empty then ['/', '>'] else ['>']) ++ rest)).takeWhile passes =
        (attrs.takeWhile fun attr =>
          !attr.value.written.contains '>').flatMap Attribute.text ++ back := by
  induction attrs with
  | nil =>
      rw [List.flatMap_nil, List.nil_append, List.append_assoc,
        List.takeWhile_append_of_pos (passes_of_space space)]
      refine ⟨_, ?_, rfl⟩
      cases empty with
      | true => simp [passes, List.count_append, space.count_quote]
      | false => simp [passes, space.count_quote]
  | cons attr attrs hypothesis =>
      obtain ⟨back, few, rest⟩ := hypothesis
      rw [List.flatMap_cons, List.append_assoc, List.takeWhile_cons]
      by_cases inside : '>' ∈ attr.value.written
      · -- The tag seems to end in this value.
        obtain ⟨front, behind, written, clear⟩ :=
          List.eq_append_cons_of_mem inside
        have noQuote : '"' ∉ front := by
          intro listed
          apply attr.value.noQuote
          rw [written]
          exact List.mem_append_left _ listed
        refine ⟨attr.before.chars ++ attr.opening ++ front, ?_, ?_⟩
        · simp [List.count_append, Space.count_quote,
            Attribute.count_quote_opening, List.count_eq_zero.mpr noQuote]
        · simp only [Attribute.text, written, List.append_assoc,
            List.cons_append]
          rw [List.takeWhile_append_of_pos (passes_of_space attr.before),
            List.takeWhile_append_of_pos
              (passes_of_not_mem (greater_not_mem_opening attr)),
            Text.takeWhile_append_cons (passes_of_not_mem clear)
              (by decide)]
          simp
      · have clear : '>' ∉ attr.text :=
          attr.not_mem_text (by decide) (by decide) (by decide) (by decide)
            inside
        refine ⟨back, few, ?_⟩
        rw [List.takeWhile_append_of_pos (passes_of_not_mem clear), rest,
          if_pos (by simpa using inside), List.flatMap_cons,
          List.append_assoc]

/-! One piece of the list. -/

theorem lookup_reverse {pairs : List (String × String)}
    (distinct : (pairs.map Prod.fst).Nodup) (key : String) :
    pairs.reverse.lookup key = pairs.lookup key := by
  have reversed : (pairs.reverse.map Prod.fst).Nodup := by
    rw [List.map_reverse]
    exact List.nodup_reverse.mpr distinct
  apply Option.ext
  intro value
  rw [← Records.mem_iff_lookup reversed, ← Records.mem_iff_lookup distinct,
    List.mem_reverse]

theorem namedUser_reverse (token : String) {attrs : List (String × String)}
    (distinct : (attrs.map Prod.fst).Nodup) :
    namedUser token attrs.reverse = namedUser token attrs := by
  unfold namedUser
  rw [lookup_reverse distinct, lookup_reverse distinct]

theorem username_sharedServerEntry (token tag : String) :
    (sharedServerEntry token tag).map UserIdentity.username =
      namedUser token
        (parseXmlAttrs (String.ofList (tag.toList.takeWhile passes))) := by
  have cut : ((Text.split '>' tag).head?).getD "" =
      String.ofList (tag.toList.takeWhile passes) := by
    rw [Text.head?_split]
    rfl
  unfold sharedServerEntry namedUser
  rw [cut]
  dsimp only
  by_cases same : (parseXmlAttrs (String.ofList
      (tag.toList.takeWhile passes))).lookup "accessToken" = some token
  · rw [if_neg (not_not.mpr same), if_pos same, Option.map_map]
    cases (List.lookup "username" _).filter _ <;> rfl
  · rw [if_pos same, if_neg same]
    rfl

theorem SharedServer.distinct_scanned (entry : SharedServer) :
    ((entry.scanned.map Attribute.writing).map Prod.fst).Nodup := by
  have names : (entry.scanned.map Attribute.writing).map Prod.fst =
      entry.scanned.map Attribute.name := by
    rw [List.map_map]
    rfl
  rw [names]
  exact entry.tag.distinct.sublist
    ((List.takeWhile_sublist _).map Attribute.name)

/-- From the space after the name on the piece is read as the entry is
scanned, whatever follows the tag. -/
theorem username_piece (token : String) (entry : SharedServer)
    {inner : List Char} (spotted : entry.tag.text = ' ' :: inner)
    (rest : List Char) :
    (sharedServerEntry token (String.ofList (inner ++ rest))).map
        UserIdentity.username =
      namedUser token (entry.scanned.map Attribute.writing) := by
  obtain ⟨back, few, cut⟩ := exists_takeWhile_passes entry.tag.attributes
    entry.tag.beforeEnd entry.tag.empty rest
  have spaced : ' ' :: (inner ++ rest).takeWhile passes =
      entry.scanned.flatMap Attribute.text ++ back := by
    calc
      _ = (' ' :: (inner ++ rest)).takeWhile passes := rfl
      _ = (entry.tag.text ++ rest).takeWhile passes := by
        rw [spotted, List.cons_append]
      _ = _ := by
        rw [SharedServer.scanned, ← cut]
        simp [StartTag.text]
  have trimmed (text : List Char) :
      parseXmlAttrs (String.ofList (' ' :: text)) =
        parseXmlAttrs (String.ofList text) := by
    simp only [parseXmlAttrs, String.toList_ofList, Text.trimList]
    rfl
  rw [username_sharedServerEntry, String.toList_ofList, ← trimmed, spaced,
    parseXmlAttrs_attributes _ few, namedUser_reverse token
      entry.distinct_scanned]

/-! The whole list. -/

def scanStart : List Char :=
  "<SharedServer ".toList

theorem scanStart_eq : scanStart = sharedServerStart ++ [' '] :=
  rfl

theorem not_infix_append {front back : List Char} (clear : '<' ∉ front)
    (absent : ¬ scanStart <:+: back) : ¬ scanStart <:+: front ++ back := by
  induction front with
  | nil => exact absent
  | cons char front hypothesis =>
      rw [List.mem_cons, not_or] at clear
      rw [List.cons_append, List.infix_cons_iff, not_or]
      refine ⟨?_, hypothesis clear.2⟩
      rintro ⟨rest, found⟩
      exact clear.1 (List.cons.inj found).1

theorem not_infix_after (entry : SharedServer) :
    ¬ scanStart <:+: entry.after.chars :=
  entry.after.noEntry ' ' List.mem_cons_self

theorem not_infix_text {entry : SharedServer}
    (unspotted : entry.spotted = false) :
    ¬ scanStart <:+: entry.text := by
  have later : ¬ scanStart <:+: "SharedServer".toList ++ entry.tag.text ++
      entry.after.chars := by
    apply not_infix_append _ (not_infix_after entry)
    rw [List.mem_append, not_or]
    exact ⟨by decide, entry.tag.not_mem_text⟩
  have text : entry.text = '<' :: ("SharedServer".toList ++
      entry.tag.text ++ entry.after.chars) := rfl
  rw [text, List.infix_cons_iff, not_or, ← text]
  refine ⟨?_, later⟩
  intro found
  rw [SharedServer.text, scanStart_eq, List.append_assoc,
    List.prefix_append_right_inj] at found
  unfold SharedServer.spotted at unspotted
  cases named : entry.tag.text with
  | nil => exact entry.tag.text_ne_nil named
  | cons first rest =>
      rw [named] at found unspotted
      obtain ⟨following, same⟩ := found
      have space : ' ' = first := (List.cons.inj same).1
      rw [← space] at unspotted
      cases unspotted

theorem head?_entries (entries : List SharedServer) :
    ∀ char ∈ (entries.flatMap SharedServer.text).head?, char = '<' := by
  intro char first
  cases entries with
  | nil => cases first
  | cons entry entries => exact (Option.some.inj first).symm

theorem splitTextList_skip {front rest : List Char}
    (absent : ¬ scanStart <:+: front)
    (starts : ∀ char ∈ rest.head?, char = '<') (fuel : Nat)
    (piece : List Char) :
    Text.splitTextList scanStart (fuel + front.length) piece
        (front ++ rest) =
      Text.splitTextList scanStart fuel (front.reverse ++ piece) rest :=
  @Text.splitTextList_append '<' "SharedServer ".toList front rest
    (by decide) absent starts fuel piece

theorem splitTextList_start (fuel : Nat) (piece rest : List Char) :
    Text.splitTextList scanStart (fuel + 1) piece (scanStart ++ rest) =
      piece.reverse :: Text.splitTextList scanStart fuel [] rest :=
  @Text.splitTextList_pattern '<' "SharedServer ".toList rest fuel piece

theorem exists_inner {entry : SharedServer} (spotted : entry.spotted = true) :
    ∃ inner, entry.tag.text = ' ' :: inner ∧ '<' ∉ inner := by
  unfold SharedServer.spotted at spotted
  have clear := entry.tag.not_mem_text
  cases named : entry.tag.text with
  | nil => exact absurd named entry.tag.text_ne_nil
  | cons first inner =>
      rw [named] at spotted clear
      have space : first = ' ' := by simpa using spotted
      rw [space]
      exact ⟨inner, rfl, fun listed => clear (List.mem_cons_of_mem _ listed)⟩

/-- The list falls into one piece for each entry that the scan spots. -/
theorem exists_pieces (token : String) (entries : List SharedServer)
    {fuel : Nat}
    (enough : (entries.flatMap SharedServer.text).length < fuel)
    (piece : List Char) :
    ∃ (more : List Char) (pieces : List (List Char)),
      Text.splitTextList scanStart fuel piece
          (entries.flatMap SharedServer.text) =
        (piece.reverse ++ more) :: pieces ∧
      (pieces.map String.ofList).findSome? (fun tag =>
          (sharedServerEntry token tag).map UserIdentity.username) =
        entries.findSome? (SharedServer.scannedUser token) := by
  induction entries generalizing fuel piece with
  | nil =>
      obtain ⟨rest, rfl⟩ := Nat.exists_eq_succ_of_ne_zero
        (Nat.ne_of_gt enough)
      exact ⟨[], [], by simp [Text.splitTextList], rfl⟩
  | cons entry entries hypothesis =>
      have starts := head?_entries entries
      rw [List.flatMap_cons, List.length_append] at enough
      rw [List.flatMap_cons, List.findSome?_cons]
      cases spotted : entry.spotted with
      | false =>
          -- The entry is taken for a part of the piece before it.
          obtain ⟨later, rfl⟩ : ∃ later, fuel = later + entry.text.length :=
            ⟨fuel - entry.text.length, by omega⟩
          obtain ⟨more, pieces, split, found⟩ := @hypothesis later
            (by omega) (entry.text.reverse ++ piece)
          refine ⟨entry.text ++ more, pieces, ?_, ?_⟩
          · rw [splitTextList_skip (not_infix_text spotted) starts, split]
            simp
          · rw [found]
            simp [SharedServer.scannedUser, spotted]
      | true =>
          obtain ⟨inner, text, clear⟩ := exists_inner spotted
          let front := inner ++ entry.after.chars
          have whole : entry.text = scanStart ++ front := by
            rw [SharedServer.text, text, scanStart_eq]
            simp [front]
          have absent : ¬ scanStart <:+: front :=
            not_infix_append clear (not_infix_after entry)
          have length : entry.text.length = 14 + front.length := by
            rw [whole, List.length_append]
            rfl
          obtain ⟨later, rfl⟩ : ∃ later, fuel = later + front.length + 1 :=
            ⟨fuel - 1 - front.length, by omega⟩
          obtain ⟨more, pieces, split, found⟩ := @hypothesis later
            (by omega) front.reverse
          refine ⟨[], (front ++ more) :: pieces, ?_, ?_⟩
          · rw [whole, List.append_assoc, splitTextList_start,
              splitTextList_skip absent starts, List.append_nil, split,
              List.reverse_reverse, List.append_nil]
          · have read := username_piece token entry text
              (entry.after.chars ++ more)
            rw [List.map_cons, List.findSome?_cons, found,
              SharedServer.scannedUser, if_pos spotted, ← read]
            simp [front]

/-- What the scan finds, entry by entry. -/
theorem findSome?_scan (token : String) (servers : SharedServers) :
    ((Text.splitText "<SharedServer " servers.text).drop 1).findSome?
        (fun tag => (sharedServerEntry token tag).map
          UserIdentity.username) =
      servers.entries.findSome? (SharedServer.scannedUser token) := by
  have absent : ¬ scanStart <:+: servers.before.chars :=
    servers.before.noEntry ' ' List.mem_cons_self
  obtain ⟨more, pieces, split, found⟩ := exists_pieces token servers.entries
    (Nat.lt_succ_self _) servers.before.chars.reverse
  have text : Text.splitText "<SharedServer " servers.text =
      ((servers.before.chars ++ more) :: pieces).map String.ofList := by
    have chars : servers.text.toList = servers.before.chars ++
        servers.entries.flatMap SharedServer.text := String.toList_ofList
    unfold Text.splitText
    change (Text.splitTextList scanStart _ _ _).map _ = _
    rw [chars, List.length_append, Nat.add_comm (List.length _),
      Nat.add_right_comm, splitTextList_skip absent (head?_entries _),
      List.append_nil, split, List.reverse_reverse]
  rw [text, List.map_cons, List.drop_one, List.tail_cons, found]

/-- The services of before, of which plex.tv lists these servers. -/
def IdentityEndpoints.listing (endpoints : IdentityEndpoints)
    (servers : SharedServers) : IdentityEndpoints :=
  { endpoints with
    sharedServers := fun _ _ => .answered 200 (.ok servers.text) }

theorem sharedServersUser_listing (endpoints : IdentityEndpoints)
    (adminToken machineId token : String) (servers : SharedServers) :
    (sharedServersUser (endpoints.listing servers) adminToken machineId
        token).map (Option.map UserIdentity.username) =
      .ok (servers.entries.findSome? (SharedServer.scannedUser token)) := by
  rw [← findSome?_scan]
  change Except.ok (Option.map _ (List.findSome? _ _)) = _
  rw [List.map_findSome?]
  rfl

/-- The lookup finds the user of the first entry for the token, whatever else
the services answer. -/
def ReadsRight (token : String) (servers : SharedServers) : Prop :=
  ∀ (endpoints : IdentityEndpoints) (adminToken machineId : String),
    (sharedServersUser (endpoints.listing servers) adminToken machineId
        token).map (Option.map UserIdentity.username) =
      .ok (servers.entries.findSome? (SharedServer.user token))

/-! When it does. -/

/-- The name is written without references, and with no white space in it but
spaces. -/
def SharedServer.PlainName (entry : SharedServer) : Prop :=
  ∀ attr ∈ entry.tag.attributes, attr.name = "username" →
    Plain attr.value.written

/-- The first entry that the scan or a reader of XML takes is taken by both and
has a plain name, or the other one takes a later entry of the same name. -/
def Undisturbed (token : String) : List SharedServer → Prop
  | [] => True
  | entry :: entries =>
      match entry.scannedUser token, entry.user token with
      | some _, some _ => entry.PlainName
      | some name, none =>
          entries.findSome? (SharedServer.user token) = some name
      | none, some name =>
          entries.findSome? (SharedServer.scannedUser token) = some name
      | none, none => Undisturbed token entries

theorem lookup_of_namedUser {token name : String}
    {attrs : List (String × String)}
    (named : namedUser token attrs = some name) :
    attrs.lookup "username" = some name := by
  unfold namedUser at named
  split at named
  · exact (Option.filter_eq_some_iff.mp named).1
  · cases named

theorem exists_attribute_of_lookup {attrs : List Attribute}
    {text : Attribute → String} {key value : String}
    (found : (attrs.map fun attr => (attr.name, text attr)).lookup key =
      some value) :
    ∃ attr ∈ attrs, attr.name = key ∧ text attr = value := by
  induction attrs with
  | nil => cases found
  | cons attr attrs hypothesis =>
      rw [List.map_cons, List.lookup_cons] at found
      split at found
      next same =>
        exact ⟨attr, List.mem_cons_self, (beq_iff_eq.mp same).symm,
          Option.some.inj found⟩
      next =>
        obtain ⟨other, listed, facts⟩ := hypothesis found
        exact ⟨other, List.mem_cons_of_mem _ listed, facts⟩

/-- An entry that both take has one name for both if that is plain. -/
theorem scannedUser_eq_user_iff {token scanned name : String}
    {entry : SharedServer} (seen : entry.scannedUser token = some scanned)
    (given : entry.user token = some name) :
    scanned = name ↔ entry.PlainName := by
  have spotted : namedUser token (entry.scanned.map Attribute.writing) =
      some scanned := by
    unfold SharedServer.scannedUser at seen
    split at seen
    · exact seen
    · cases seen
  obtain ⟨attr, among, key, rfl⟩ := exists_attribute_of_lookup
    (lookup_of_namedUser spotted)
  obtain ⟨other, listed, otherKey, rfl⟩ := exists_attribute_of_lookup
    (lookup_of_namedUser given)
  have member := (List.takeWhile_sublist _).subset among
  have unique := List.inj_on_of_nodup_map entry.tag.distinct
  obtain rfl := unique member listed (key.trans otherKey.symm)
  rw [String.ofList_inj]
  have plain : attr.value.written = attr.value.meant ↔
      Plain attr.value.written := by
    rw [← attValue?_self_iff, attr.value.decodes, Option.some.injEq, eq_comm]
  rw [plain]
  constructor
  · intro clear twin twinListed named
    obtain rfl := unique twinListed member (named.trans key.symm)
    exact clear
  · intro clear
    exact clear attr member key

theorem findSome?_scannedUser_iff (token : String)
    (entries : List SharedServer) :
    entries.findSome? (SharedServer.scannedUser token) =
        entries.findSome? (SharedServer.user token) ↔
      Undisturbed token entries := by
  induction entries with
  | nil => exact iff_of_true rfl trivial
  | cons entry entries hypothesis =>
      rw [List.findSome?_cons, List.findSome?_cons, Undisturbed]
      cases seen : entry.scannedUser token with
      | none =>
          cases given : entry.user token with
          | none => exact hypothesis
          | some name => exact Iff.rfl
      | some scanned =>
          cases given : entry.user token with
          | none => exact eq_comm
          | some name =>
              simp only [Option.some.injEq]
              exact scannedUser_eq_user_iff seen given

theorem shared_servers_read_right_iff (token : String)
    (servers : SharedServers) :
    ReadsRight token servers ↔ Undisturbed token servers.entries := by
  unfold ReadsRight
  simp only [sharedServersUser_listing, Except.ok.injEq]
  rw [findSome?_scannedUser_iff]
  exact ⟨fun always => always rejectingEndpoints "" "", fun holds _ _ _ =>
    holds⟩

/-! A name with an ampersand in it. -/

def tomAndJo : AttValue where
  written := "Tom &amp; Jo".toList
  legal := List.all_eq_true.mp (by decide +kernel)
  noQuote := by decide +kernel
  noLess := by decide +kernel
  meant := "Tom & Jo".toList
  decodes := by decide +kernel

def sharedToken : AttValue where
  written := "shared".toList
  legal := List.all_eq_true.mp (by decide +kernel)
  noQuote := by decide +kernel
  noLess := by decide +kernel
  meant := "shared".toList
  decodes := by decide +kernel

def noSpace : Space :=
  ⟨[], nofun⟩

def oneSpace : Space :=
  ⟨[' '], by simp [isSpace]⟩

def nothing : Between where
  chars := []
  noEntry _ _ found := by
    have empty := List.eq_nil_of_infix_nil found
    rw [List.append_eq_nil_iff] at empty
    exact absurd empty.2 (List.cons_ne_nil _ _)

def tomAndJoEntry : SharedServer where
  tag :=
    { attributes :=
        [⟨oneSpace, List.cons_ne_nil _ _, "username", by decide,
            List.all_eq_true.mp (by decide +kernel), noSpace, noSpace,
            tomAndJo⟩,
          ⟨oneSpace, List.cons_ne_nil _ _, "accessToken", by decide,
            List.all_eq_true.mp (by decide +kernel), noSpace, noSpace,
            sharedToken⟩]
      distinct := by decide
      beforeEnd := noSpace
      empty := true }
  after := nothing

def tomAndJoList : SharedServers :=
  ⟨nothing, [tomAndJoEntry]⟩

example : tomAndJoList.text =
    "<SharedServer username=\"Tom &amp; Jo\" accessToken=\"shared\"/>" := by
  decide +kernel

theorem reference_stays_in_username :
    ¬ ∀ (token : String) (servers : SharedServers),
      ReadsRight token servers := by
  intro always
  have right := always "shared" tomAndJoList rejectingEndpoints "" ""
  rw [sharedServersUser_listing] at right
  have found := Except.ok.inj right
  revert found
  decide +kernel

end Replex
