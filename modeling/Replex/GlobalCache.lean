import Replex.Data.Bincode
import Replex.Data.Expiring

namespace Replex

open Data

/-! The process-wide cache of serialised values. -/

inductive Expiration where
  | never
  | global
  | month
  | day
  deriving DecidableEq

/-- In seconds. The global lifetime is the configured one. -/
def Expiration.asDuration (globalTtl : Nat) : Expiration → Option Nat
  | .never => none
  | .global => some globalTtl
  | .month => some (30 * 24 * 60 * 60)
  | .day => some (60 * 60 * 24)

abbrev CacheValue : Type := Expiration × List UInt8

structure CacheManager where
  inner : Expiring String CacheValue := .empty

namespace CacheManager

/-- A value that does not read as the type asked for is evicted. -/
def get {α : Type} (codec : Codec α) (now : Nat) (cacheKey : String)
    (cache : CacheManager) : Option α × CacheManager :=
  match cache.inner.lookup now cacheKey with
  | none => (none, cache)
  | some value =>
      match codec.decode value.2 with
      | some result => (some result, cache)
      | none => (none, ⟨cache.inner.evict cacheKey⟩)

def insert {α : Type} (codec : Codec α) (globalTtl now : Nat)
    (cacheKey : String) (value : α) (expires : Expiration)
    (cache : CacheManager) : CacheManager :=
  ⟨cache.inner.insert now cacheKey (expires, codec.encode value)
    (expires.asDuration globalTtl)⟩

def delete (cacheKey : String) (cache : CacheManager) : CacheManager :=
  ⟨cache.inner.evict cacheKey⟩

def clear : CacheManager := {}

variable {α : Type} {codec : Codec α} {now : Nat} {cacheKey : String}
  {cache : CacheManager}

theorem get_eq_some {result : α}
    (hit : (cache.get codec now cacheKey).1 = some result) :
    ∃ value, cache.inner.lookup now cacheKey = some value ∧
      codec.decode value.2 = some result := by
  unfold get at hit
  split at hit
  · cases hit
  next value found =>
      split at hit
      next read =>
          cases hit
          exact ⟨value, found, read⟩
      · cases hit

/-- Reading leaves the cache as it is, or without the key. -/
theorem get_leaves (codec : Codec α) (now : Nat) (cacheKey : String)
    (cache : CacheManager) :
    (cache.get codec now cacheKey).2 = cache ∨
      (cache.get codec now cacheKey).2 = cache.delete cacheKey := by
  unfold get
  split
  · exact .inl rfl
  · split
    · exact .inl rfl
    · exact .inr rfl

end CacheManager

end Replex
