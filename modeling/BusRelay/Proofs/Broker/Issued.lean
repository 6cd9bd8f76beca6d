import BusRelay.Broker.Directory
import BusRelay.Proofs.Json.Record
import BusRelay.Proofs.Json.Tree
import Mathlib.Data.List.Permutation
/-!
# Tokens as they are issued

A token is issued by an object with two members, and whatever others the directory adds make no difference
(`Issued.decode_object`). The lifetime that comes of any answer has 64 bits (`lifetime_le_of_issued`).
-/

namespace BusRelay

namespace Directory

open Json (Tree Member Padded Adds)

/-! ## What is read -/

section

variable {tree : Tree} {text : String} {lifetime : Nat}

theorem Issued.set_token (draft : Draft) (is : tree.toJson = .ok (.string text)) :
    record.set draft "access_token" tree = .ok { draft with token := some text } := by
  cases Tree.worth_of_toJson is
  rfl

theorem Issued.set_lifetime (draft : Draft) (is : tree.toJson = .ok (.number (.integer lifetime)))
    (word : lifetime ≤ Json.maxNatural) :
    record.set draft "expires_in" tree = .ok { draft with lifetime := some lifetime } := by
  have bounds : (0 : Int) ≤ lifetime ∧ (lifetime : Int) ≤ Json.maxNatural := by omega
  cases Tree.worth_of_toJson is
  change (Json.readInteger 0 Json.maxNatural "u64" (.number (.integer lifetime) _) >>= _) = _
  rw [Json.readInteger, if_pos bounds]
  rfl

/-- A token and its lifetime are read in either order, whatever other members stand around them. -/
theorem Issued.decode_object {p : Padded} {blanks : Utf8.Bytes} (blank : Json.IsBlanks blanks) {members : List Member}
    (object : p.value = Json.braced blanks (members.map Member.text)) {parts : List (List (String × Json))}
    (each : List.Forall₂ (Adds record.members (Json.maxDepth - 1)) members parts)
    (own : parts.flatten.Perm [("access_token", .string text), ("expires_in", .number (.integer lifetime))])
    (word : lifetime ≤ Json.maxNatural) : decode p.text = .ok ⟨text, lifetime⟩ := by
  obtain ⟨trees, stop, all, decoded⟩ := Json.Record.decode_object record blank object each
  rw [decode, decoded]
  rcases List.perm_pair.1 own with order | order
  all_goals
    rw [order] at all
    obtain ⟨start, tree, start', tree', rfl, one, other⟩ := Tree.membersToJson_pair all
    rw [Json.Record.setMembers_distinct record (by simp) (by simp)]
  · simp only [List.foldlM_cons, set_token _ one, set_lifetime _ other word]
    rfl
  · simp only [List.foldlM_cons, set_lifetime _ one word, set_token _ other]
    rfl

/-- A number out of range does not matter in a member that nobody asks for. -/
example : (Issued.decode (Utf8.bytes
    "\x7b\"access_token\":\"t\",\"expires_in\":3600,\"x\":1e999\x7d")).toOption = some ⟨"t", 3600⟩ := by
  decide +kernel

end

/-! ## Lifetimes -/

variable {token : Issued}

/-- A lifetime that is known before the end of the text has 64 bits. -/
def Issued.Draft.Bounded (draft : Issued.Draft) : Prop := ∀ n ∈ draft.lifetime, n ≤ Json.maxNatural

theorem Issued.Draft.set_bounded {draft next : Issued.Draft} {name : String} {value : Json.Tree}
    (bounded : draft.Bounded) (set : draft.set name value = .ok next) : next.Bounded := by
  unfold Issued.Draft.set at set
  split at set
  · obtain ⟨text, -, set⟩ := bind_ok set
    cases set
    exact bounded
  · obtain ⟨n, read, set⟩ := bind_ok set
    cases set
    rintro _ ⟨⟩
    exact Int.toNat_le.2 (Json.readInteger_ok read).2
  · cases set
    exact bounded

theorem Issued.Draft.complete_ok {draft : Issued.Draft} (made : draft.complete = .ok token) :
    draft = ⟨some token.token, some token.lifetime⟩ := by
  unfold Issued.Draft.complete at made
  split at made
  · cases made
    rfl
  · cases made
  · cases made

theorem lifetime_le_of_decode {text : Utf8.Bytes} (decoded : Issued.decode text = .ok token) :
    token.lifetime ≤ Json.maxNatural := by
  have start : Issued.record.empty.Bounded := by
    rintro _ ⟨⟩
  obtain ⟨draft, bounded, made⟩ := Json.Record.decode_keeps Issued.Draft.set_bounded start decoded
  rw [Issued.Draft.complete_ok made] at bounded
  exact bounded _ rfl

/-- Whatever the directory answers, a lifetime that comes of it has 64 bits. -/
theorem lifetime_le_of_issued {result : Except Http.ClientFault Http.Response}
    (came : issued result = .ok token) : token.lifetime ≤ Json.maxNatural := by
  unfold issued at came
  split at came
  · cases came
  · split at came
    · split at came
      · rename_i decoded
        cases came
        split at decoded
        · exact lifetime_le_of_decode (toOption_eq_some.1 decoded)
        · cases decoded
      · cases came
    · cases came

end Directory

end BusRelay
