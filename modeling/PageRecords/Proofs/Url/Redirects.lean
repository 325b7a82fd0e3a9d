import PageRecords.Document.Redirect
import PageRecords.Proofs.Url.ForcedPairs
import PageRecords.Proofs.Url.FormRoundTrip

/-!
# Redirects settle, and change the query only

Going where a redirect leads is enough: there every required parameter has its value, so
nothing leads on from there (`redirect_settles_in_one_step`). The address differs from the
one before in the query only, and there in the pairs that had to be forced
(`redirect_forces_only_what_differs`). Both take the names of the required parameters to
differ, as those of every document that is read do.
-/

namespace PageRecords

open Url.Form (Pairs)

namespace Url

variable {u v : Url} {required : Pairs}

theorem pairs_withPairs (u : Url) (ps : Pairs) : (u.withPairs ps).pairs = ps := by
  rw [pairs, withPairs, Option.getD_some, String.toList_ofList, Form.read_write]

theorem forced?_eq_none :
    u.forced? required = none ↔ ∀ q ∈ required, u.pairs.lookup q.1 = some q.2 := by
  rw [forced?]
  split
  · next hall =>
    simpa [Pairs.carries_iff] using hall
  · next hnot =>
    simpa [Pairs.carries_iff] using hnot

theorem forced?_eq_some (hnodup : (required.map (·.1)).Nodup) (h : u.forced? required = some v) :
    v = u.withPairs (u.pairs.settled required) := by
  rw [forced?, Pairs.foldl_force hnodup] at h
  split at h
  · cases h
  · exact (Option.some.inj h).symm

/-- At the address that forcing leads to, every required pair is the first of its name. -/
theorem lookup_of_forced? (hnodup : (required.map (·.1)).Nodup) (h : u.forced? required = some v)
    {q : String × String} (hq : q ∈ required) : v.pairs.lookup q.1 = some q.2 := by
  rw [forced?_eq_some hnodup h, pairs_withPairs]
  exact Pairs.lookup_settled hnodup hq

end Url

/-- An address that a redirect leads to has all that is required, and no redirect leads
away from it. A redirect leads away from an address just where something required is not
what the first pair of its name has. -/
theorem redirect_settles_in_one_step (r : Redirect) (u : Url)
    (hnodup : (r.required.map (·.1)).Nodup) :
    (∀ v, r.target? u = some v →
      r.target? v = none ∧ ∀ name value, (name, value) ∈ r.required →
        v.pairs.lookup name = some value) ∧
      (r.target? u = none ↔ ∀ name value, (name, value) ∈ r.required →
        u.pairs.lookup name = some value) := by
  constructor
  · intro v hv
    have hfirst : ∀ q ∈ r.required, v.pairs.lookup q.1 = some q.2 :=
      fun q hq => Url.lookup_of_forced? hnodup hv hq
    exact ⟨Url.forced?_eq_none.mpr hfirst, fun name value hq => hfirst (name, value) hq⟩
  · exact Url.forced?_eq_none.trans Prod.forall

/-- Duplicates, an escape that is malformed and names beyond ASCII. -/
def crowdedAddress : Url where
  scheme := "https"
  authority := some ⟨"user", "", .name "example.com", some 8080⟩
  path := .rooted ["a", "b"]
  query := some "view=2&q=%zz&&ok=1&%C3%A9=%ff&view=3&ok=2&flag"
  fragment := some "top"

def crowdedRedirect : Redirect := ⟨[("view", "all & more"), ("ok", "1"), ("né", "+é")]⟩

theorem crowded_address_settles :
    (crowdedRedirect.required.map (·.1)).Nodup ∧
      ∃ v, crowdedRedirect.target? crowdedAddress = some v ∧ crowdedRedirect.target? v = none ∧
        v.pairs.lookup "view" = some "all & more" := by
  have hnodup : (crowdedRedirect.required.map (·.1)).Nodup := by decide
  have hsome : (crowdedRedirect.target? crowdedAddress).isSome := by decide +kernel
  obtain ⟨v, hv⟩ := Option.isSome_iff_exists.mp hsome
  obtain ⟨hnone, hfirst⟩ :=
    (redirect_settles_in_one_step crowdedRedirect crowdedAddress hnodup).1 v hv
  exact ⟨hnodup, v, hv, hnone, hfirst "view" "all & more" (by decide)⟩

/-- An address that a redirect leads to differs in its query only, and of the query all
pairs stay in their order but those of the names that had to be forced: of these the first
takes the required value and the others go. What was missing comes last. -/
theorem redirect_forces_only_what_differs (r : Redirect) (u v : Url)
    (hnodup : (r.required.map (·.1)).Nodup) (h : r.target? u = some v) :
    v.scheme = u.scheme ∧ v.authority = u.authority ∧ v.path = u.path ∧
      v.fragment = u.fragment ∧ v.pairs = u.pairs.settled r.required := by
  have hv := Url.forced?_eq_some hnodup h
  subst hv
  exact ⟨rfl, rfl, rfl, rfl, Url.pairs_withPairs u _⟩

theorem crowded_address_changes_little :
    (crowdedRedirect.required.map (·.1)).Nodup ∧
      ∃ v, crowdedRedirect.target? crowdedAddress = some v ∧
        v.authority = crowdedAddress.authority ∧ v.fragment = some "top" ∧
        v.pairs = [("view", "all & more"), ("q", "%zz"), ("ok", "1"), ("é", "\ufffd"), ("ok", "2"),
          ("flag", ""), ("né", "+é")] := by
  have hnodup : (crowdedRedirect.required.map (·.1)).Nodup := by decide
  have hsome : (crowdedRedirect.target? crowdedAddress).isSome := by decide +kernel
  obtain ⟨v, hv⟩ := Option.isSome_iff_exists.mp hsome
  obtain ⟨-, hauthority, -, hfragment, hpairs⟩ :=
    redirect_forces_only_what_differs crowdedRedirect crowdedAddress v hnodup hv
  refine ⟨hnodup, v, hv, hauthority, hfragment, hpairs.trans ?_⟩
  decide +kernel

end PageRecords
