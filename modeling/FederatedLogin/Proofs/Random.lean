import FederatedLogin.Proofs.Text.Base64Url
import FederatedLogin.User
import Mathlib.Algebra.Order.Floor.Div

/-!
# What random texts tell apart

A random text tells which bytes it was drawn from, all of them and nothing else.  So two texts are
the same only if their bytes are, and so are the e-mails of two users that have neither an e-mail
nor a name: what such users get is a random text and the ending that every placeholder has.
-/

namespace FederatedLogin

open FederatedLogin.Text

/-- Without an e-mail and a name, the placeholder of a random text is chosen. -/
theorem User.chooseEmail_of_unnamed {user : User} (missing : user.email = [])
    (unnamed : user.username = []) (source : RandomSource) :
    (user.chooseEmail source).1 = (source.text localPartBytes).1 ++ placeholderSuffix := by
  rw [chooseEmail, if_neg (not_not.mpr missing), if_neg (not_not.mpr unnamed)]

namespace RandomSource

variable {source other : RandomSource} {count more : Nat}

theorem toList_text (source : RandomSource) (count : Nat) :
    (source.text count).1.toList = Base64Url.encode (source.upcoming count) :=
  String.toList_ofList

theorem length_text (source : RandomSource) (count : Nat) :
    (source.text count).1.length = (4 * count) ⌈/⌉ 3 := by
  rw [← String.length_toList, toList_text, Base64Url.length_encode, length_upcoming,
    Nat.ceilDiv_eq_add_pred_div]
  rfl

/-- Texts of whatever lengths are the same only if their bytes are. -/
theorem text_eq_iff :
    (source.text count).1 = (other.text more).1 ↔ source.upcoming count = other.upcoming more := by
  rw [← String.toList_inj, toList_text, toList_text]
  exact Base64Url.encode_injective.eq_iff

/-- A text of random bytes has a character for every six bits, the last of which may be short of
some.  All of them are letters of the alphabet, so none is an at-sign, and the bytes are read again
from them.  So the texts of two draws, of whatever lengths and from whatever sources, are the same
exactly if the bytes are; and so are the e-mails of two users that have neither an e-mail nor a
name, for which eight bytes are drawn. -/
theorem texts_keep_their_bytes (source : RandomSource) (count : Nat) :
    let drawn := (source.text count).1
    drawn.length = (4 * count) ⌈/⌉ 3 ∧
    drawn.toList ⊆ Base64Url.alphabet ∧ '@' ∉ drawn.toList ∧
    Base64Url.decode drawn.toList = source.upcoming count ∧
    (∀ (other : RandomSource) (more : Nat),
      drawn = (other.text more).1 ↔ source.upcoming count = other.upcoming more) ∧
    ∀ (other : RandomSource) (user holder : User),
      user.email = [] → user.username = [] → holder.email = [] → holder.username = [] →
        ((user.chooseEmail source).1 = (holder.chooseEmail other).1 ↔
          source.upcoming 8 = other.upcoming 8) := by
  intro drawn
  have letters : drawn.toList ⊆ Base64Url.alphabet := by
    rw [toList_text]
    exact Base64Url.encode_subset_alphabet _
  refine ⟨source.length_text count, letters, fun atMem => ?_, ?_, fun other more => text_eq_iff, ?_⟩
  · exact absurd (letters atMem) Base64Url.at_not_mem_alphabet
  · rw [toList_text, Base64Url.decode_encode]
  · intro other user holder userMissing userUnnamed holderMissing holderUnnamed
    rw [User.chooseEmail_of_unnamed userMissing userUnnamed,
      User.chooseEmail_of_unnamed holderMissing holderUnnamed, List.append_left_inj,
      CodePoint.ofText_inj]
    exact text_eq_iff

/-- Two users without names get e-mails of their own from bytes that differ. -/
theorem unnamed_users_told_apart :
    let user : User := { federationKey := "u", username := [] }
    let holder : User := { federationKey := "v", username := [] }
    user.email = [] ∧ user.username = [] ∧ holder.email = [] ∧ holder.username = [] ∧
      (user.chooseEmail (arithmetic 0)).1 ≠ (holder.chooseEmail (arithmetic 1)).1 := by
  intro user holder
  refine ⟨rfl, rfl, rfl, rfl, ?_⟩
  obtain ⟨_, _, _, _, _, apart⟩ := texts_keep_their_bytes (arithmetic 0) 8
  rw [ne_eq, apart (arithmetic 1) user holder rfl rfl rfl rfl]
  decide

end RandomSource

end FederatedLogin
