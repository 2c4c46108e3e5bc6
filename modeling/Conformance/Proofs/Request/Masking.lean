import Conformance.Proofs.Request.Redaction
import Conformance.Proofs.Url.Normal

/-! Addresses as they are shown. Of a key in the query nothing is left, whatever it consists of and
whatever stands around it. -/
namespace Conformance.Redaction

open Text (joinWith splitAt)
open Url (Host Normal marked)

variable {u : Url} {host : Host}

/-- The pair of a key is masked, with all that stands behind it up to the next pair. -/
theorem mask_pair (rest : List Char) : ∃ shown, ∀ key : List Char, key ≠ [] →
    (splitAt '&' (Url.Form.encodePair keyName key ++ rest)).map maskParameter = masked :: shown := by
  obtain ⟨part, parts, hs⟩ := List.exists_cons_of_ne_nil (Text.splitAt_ne_nil '&' rest)
  refine ⟨parts.map maskParameter, fun key hk => ?_⟩
  have hand : '&' ∉ Url.Form.encodePair keyName key :=
    Url.Form.not_mem_encodePair (by decide) (by decide)
  obtain ⟨part', parts', hs', hsplit⟩ := Text.splitAt_append_left hand rest
  obtain ⟨rfl, rfl⟩ := List.cons.inj (hs.symm.trans hs')
  have hpair : Url.Form.encodePair keyName key ++ part =
      keyName ++ '=' :: (Url.Form.encode key ++ part) := by
    have hname : Url.Form.encode keyName = keyName := by decide
    rw [Url.Form.encodePair, hname, List.append_assoc, List.cons_append]
  have hvalue : Url.Form.encode key ++ part ≠ [] :=
    List.append_ne_nil_of_left_ne_nil (Url.Form.encode_ne_nil hk) _
  rw [hsplit, List.map_cons, hpair, maskParameter_key hvalue]

/-- A key behind the pairs of a query is masked. -/
theorem mask_append (query rest : List Char) : ∃ shown, ∀ key : List Char, key ≠ [] →
    (splitAt '&' (Url.Form.append query keyName key ++ rest)).map maskParameter = shown := by
  obtain ⟨shown, hshown⟩ := mask_pair rest
  by_cases hq : query = []
  · refine ⟨masked :: shown, fun key hk => ?_⟩
    rw [Url.Form.append, hq]
    exact hshown key hk
  · refine ⟨(splitAt '&' query).map maskParameter ++ masked :: shown, fun key hk => ?_⟩
    rw [Url.Form.append, if_neg (by simpa using hq), List.append_assoc, List.cons_append,
      Text.splitAt_append, List.map_append, hshown key hk]

/-- What is shown of an address with a key does not depend on the key. -/
theorem mask_withPair (hn : Normal u host) : ∃ shown, ∀ key : String, key ≠ "" →
    mask (u.withPair "key" key).text = shown := by
  obtain ⟨shown, hshown⟩ := mask_append (u.query.getD []) (marked '#' u.fragment)
  let front := u.scheme ++ ':' :: ('/' :: '/' :: u.authorityText host ++ u.path.text)
  have hfront : '?' ∉ front := by
    have hscheme : '?' ∉ u.scheme := by
      obtain hw | hw := hn.web <;> rw [hw] <;> decide
    have hauthority : '?' ∉ u.authorityText host := fun hm =>
      absurd (Url.mem_authorityText hn hm) (by decide)
    have hpath : '?' ∉ u.path.text := fun hm => absurd (Url.mem_pathText hn hm) (by decide)
    simp [front, hscheme, hauthority, hpath]
  refine ⟨String.ofList (front ++ '?' :: joinWith '&' shown), fun key hk => ?_⟩
  have hkey : key.toList ≠ [] := by simpa using hk
  have htext : (u.withPair "key" key).text.toList =
      front ++ '?' :: (Url.Form.append (u.query.getD []) keyName key.toList ++
        marked '#' u.fragment) := by
    rw [Url.text, String.toList_ofList, Url.chars_eq (hn.withPair "key" key)]
    change u.scheme ++ ':' :: ('/' :: '/' :: u.authorityText host ++ u.path.text ++
      '?' :: Url.Form.append (u.query.getD []) keyName key.toList ++ marked '#' u.fragment) = _
    simp [front]
  rw [← String.toList_inj, toList_mask htext hfront, hshown key.toList hkey, String.toList_ofList]

end Conformance.Redaction
