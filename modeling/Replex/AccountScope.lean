import Mathlib.Data.List.Basic
import Replex.Data.HexText

namespace Replex

open Data

/-! Credential scopes: what stands for a token in logs, keys and bindings. -/

/-- The digest of a token as 64 lowercase hexadecimal characters. -/
structure TokenDigest where
  tokenFingerprint : String → String
  length_fingerprint :
    ∀ token, (tokenFingerprint token).toList.length = 64
  hex_fingerprint :
    ∀ token, (tokenFingerprint token).toList.all HexText.isLower = true

def TokenDigest.tokenScope (digest : TokenDigest) : Option String → String
  | some token =>
      String.ofList ((digest.tokenFingerprint token).toList.take 16)
  | none => "anon"

theorem TokenDigest.length_tokenScope
    (digest : TokenDigest) (token : String) :
    (digest.tokenScope (some token)).toList.length = 16 := by
  simp [tokenScope, digest.length_fingerprint token]

end Replex
