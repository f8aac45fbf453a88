import Replex.Data.MultiMap
import Replex.AccountScope
import Replex.Config

namespace Replex

open Data

/-! Requests, and how handlers rewrite their query. -/

inductive Method where
  | get | post | put | delete | head | options | other
  deriving DecidableEq, Repr

abbrev Queries : Type := MultiMap String String

structure Uri where
  origin : String
  path : String
  queries : Queries
  deriving DecidableEq, Repr

/-- How the URL parser and the HTTP library treat a request target. Parsing
reads scheme, authority and path, and never fails on a query. Converting back
may refuse a target, for example one that has grown too long. -/
structure UrlCodec where
  parse? : String → String → Option (String × String)
  converts : Uri → Bool

structure Request where
  method : Method := .get
  uri : Uri
  /-- The `HOST` header, when its bytes are visible ASCII. -/
  hostHeader : Option String := none
  deriving DecidableEq

def UrlCodec.rewritten (codec : UrlCodec) (query : Queries) (uri : Uri) :
    Option Uri :=
  (codec.parse? uri.origin uri.path).map fun parsed =>
    ⟨parsed.1, parsed.2, ⟨query.iter⟩⟩

/-- A target that does not parse, or does not convert back, is left alone. -/
def replaceQuery (codec : UrlCodec) (query : Queries) (uri : Uri) : Uri :=
  match codec.rewritten query uri with
  | none => uri
  | some next => if codec.converts next then next else uri

/-- Unlike `replaceQuery`, keeps every value of the other parameters. -/
def addQueryParamSalvo (codec : UrlCodec) (param value : String) (uri : Uri) :
    Uri :=
  match codec.parse? uri.origin uri.path with
  | none => uri
  | some parsed =>
      let next : Uri := ⟨parsed.1, parsed.2, uri.queries.set param value⟩
      if codec.converts next then next else uri

def UrlCodec.Rewrites (codec : UrlCodec) (query : Queries) (uri : Uri) :
    Prop :=
  (codec.rewritten query uri).any codec.converts = true

instance (codec : UrlCodec) (query : Queries) (uri : Uri) :
    Decidable (codec.Rewrites query uri) :=
  inferInstanceAs (Decidable (_ = true))

theorem replaceQuery_of_rewrites {codec : UrlCodec} {query : Queries}
    {uri : Uri} (rewrites : codec.Rewrites query uri) :
    (replaceQuery codec query uri).queries = ⟨query.iter⟩ := by
  unfold UrlCodec.Rewrites at rewrites
  unfold replaceQuery
  cases equation : codec.rewritten query uri with
  | none => simp [equation] at rewrites
  | some next =>
      have converts : codec.converts next = true := by
        simpa [equation] using rewrites
      simp only [converts, if_true]
      unfold UrlCodec.rewritten at equation
      obtain ⟨parsed, _, rfl⟩ := Option.map_eq_some_iff.mp equation
      rfl

theorem replaceQuery_of_not_rewrites {codec : UrlCodec} {query : Queries}
    {uri : Uri} (fails : ¬ codec.Rewrites query uri) :
    replaceQuery codec query uri = uri := by
  unfold UrlCodec.Rewrites at fails
  unfold replaceQuery
  cases equation : codec.rewritten query uri with
  | none => rfl
  | some next =>
      have refused : codec.converts next = false := by
        simpa [equation] using fails
      simp [refused]

theorem getAll_addQueryParamSalvo_of_ne (codec : UrlCodec)
    {param key : String} (different : param ≠ key) (value : String)
    (uri : Uri) :
    (addQueryParamSalvo codec param value uri).queries.getAll key =
      uri.queries.getAll key := by
  unfold addQueryParamSalvo
  split
  · rfl
  · dsimp only
    split
    · exact MultiMap.getAll_set_of_ne uri.queries different value
    · rfl

end Replex
