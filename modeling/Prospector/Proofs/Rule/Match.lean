import Prospector.Proofs.Rule.Clause
import Prospector.Proofs.Rule.Meaning

/-!
# Where rules match

A rule classifies a document by the first of its leaves that holds. Which one this is, is said here
by its place in the rule: it is the leaf furthest left of those that hold.

## Main definitions

* `Rule.sites` : the leaves of a rule with the paths to them.
* `Rule.MatchesAt` : the place at which a rule matches a document.

## Main results

* `Rule.exists_matchesAt`, `Rule.MatchesAt.value_classify` : a rule classifies as the leaf at the
  place at which it matches.
* `Rule.MatchesAt.unique` : there is only one such place.
-/

namespace Prospector

/-! ## Leaves with their paths -/

mutual

/-- The predicates of a rule with the paths to them, from left to right. -/
def Rule.sites : Rule → List (ClausePath × Predicate)
  | .oneOf rules => sitesOf 0 rules
  | .predicate p => [([], p)]
  | .malformed _ => []

/-- The predicates of the alternatives of a rule, the first of which has the given index. -/
def sitesOf (index : Nat) : List Rule → List (ClausePath × Predicate)
  | [] => []
  | r :: rest =>
    r.sites.map (fun site => (.alternative index :: site.1, site.2)) ++ sitesOf (index + 1) rest

end

mutual

theorem Rule.map_snd_sites : ∀ r : Rule, r.sites.map Prod.snd = r.leaves
  | .oneOf rules => map_snd_sitesOf 0 rules
  | .predicate _ => rfl
  | .malformed _ => rfl

theorem map_snd_sitesOf (index : Nat) : ∀ rules : List Rule,
    (sitesOf index rules).map Prod.snd = leavesOf rules
  | [] => rfl
  | r :: rest => by
      rw [sitesOf, List.map_append, List.map_map, map_snd_sitesOf (index + 1) rest, leavesOf,
        ← r.map_snd_sites]
      rfl

end

theorem sitesOf_eq (index : Nat) (rules : List Rule) : sitesOf index rules =
    (rules.zipIdx index).flatMap fun m =>
      m.1.sites.map fun site => (.alternative m.2 :: site.1, site.2) := by
  induction rules generalizing index with
  | nil => rfl
  | cons r rules ih => rw [sitesOf, ih, List.zipIdx_cons, List.flatMap_cons]

namespace Clause

/-- The predicate that a clause is, if it is one. -/
def predicate? : Clause → Option Predicate
  | .rule (.predicate p) => some p
  | _ => none

/-- The predicates in a clause with the paths to them. -/
def sites : Clause → List (ClausePath × Predicate)
  | .rule r => r.sites
  | _ => []

theorem predicate?_eq_some_iff {c : Clause} {p : Predicate} :
    c.predicate? = some p ↔ c = .rule (.predicate p) := by
  constructor
  · intro h
    unfold predicate? at h
    split at h
    · rw [Option.some.inj h]
    · cases h
  · rintro rfl
    rfl

theorem lists_sites : Lists predicate? sites := by
  have hgroup : ∀ (step : Nat → ClauseStep) (conditions : List Condition),
      (conditions.zipIdx.map fun m => (step m.2, Clause.condition m.1)).flatMap (fun child =>
        child.2.sites.map fun site => (child.1 :: site.1, site.2)) = [] := by
    intro step conditions
    rw [List.flatMap_map]
    exact List.flatMap_eq_nil_iff.2 fun _ _ => rfl
  intro c
  cases c with
  | rule r =>
      cases r with
      | oneOf rules =>
          show sitesOf 0 rules = _
          rw [sitesOf_eq, children, List.flatMap_map]
          rfl
      | predicate p =>
          obtain ⟨condition, kind, extraction⟩ := p
          cases extraction <;> rfl
      | malformed flaw => rfl
  | condition condition =>
      cases condition with
      | all conditions => exact (hgroup .all conditions).symm
      | any conditions => exact (hgroup .any conditions).symm
      | tag _ | malformed _ => rfl
  | extraction x => rfl

end Clause

theorem Rule.mem_sites_iff {r : Rule} {path : ClausePath} {p : Predicate} :
    (path, p) ∈ r.sites ↔ (Clause.rule r).at? path = some (.rule (.predicate p)) := by
  have hmem := @Clause.Lists.mem_iff _ _ _ Clause.lists_sites (.rule r) path p
  simp only [Clause.predicate?_eq_some_iff, exists_eq_right] at hmem
  exact hmem

theorem Rule.pairwise_sites (r : Rule) :
    r.sites.Pairwise fun x y => ClausePath.Precedes x.1 y.1 :=
  Clause.lists_sites.pairwise (.rule r)

/-! ## The leaf that decides -/

/-- A rule matches a document at the leaf that holds with all others that hold further right. -/
structure Rule.MatchesAt (r : Rule) (d : Document) (path : ClausePath) (p : Predicate) : Prop where
  leads : (Clause.rule r).at? path = some (.rule (.predicate p))
  holds : p.condition.Holds d
  first : ∀ other q, (Clause.rule r).at? other = some (.rule (.predicate q)) →
    q.condition.Holds d → other = path ∨ ClausePath.Precedes path other

namespace Rule

variable {r : Rule} {d : Document} {path : ClausePath} {p : Predicate}

theorem matchesAt_of_sites {before after : List (ClausePath × Predicate)}
    (hsites : r.sites = before ++ (path, p) :: after)
    (hbefore : ∀ site ∈ before, ¬site.2.condition.Holds d) (hp : p.condition.Holds d) :
    r.MatchesAt d path p where
  leads := by
    rw [← mem_sites_iff, hsites]
    exact List.mem_append_right before List.mem_cons_self
  holds := hp
  first := by
    intro other q hother hq
    rw [← mem_sites_iff, hsites] at hother
    rcases List.mem_append.1 hother with hother | hother
    · exact absurd hq (hbefore _ hother)
    · rcases List.mem_cons.1 hother with heq | hother
      · exact .inl (Prod.mk.inj heq).1
      · have hpairwise := r.pairwise_sites
        rw [hsites, List.pairwise_append, List.pairwise_cons] at hpairwise
        exact .inr (hpairwise.2.1.1 _ hother)

/-- A rule that classifies a document matches it at some place. -/
theorem exists_matchesAt {c : Classification} (h : (r.classify d).value = some c) :
    ∃ path p, r.MatchesAt d path p ∧ c = p.classification d := by
  rw [r.value_classify d, ← r.map_snd_sites, firstLeaf?, List.find?_map, Option.map_map,
    Option.map_eq_some_iff] at h
  obtain ⟨⟨path, p⟩, hfirst, rfl⟩ := h
  obtain ⟨hp, before, after, hsites, hbefore⟩ := List.find?_eq_some_iff_append.1 hfirst
  refine ⟨path, p, matchesAt_of_sites hsites ?_ (of_decide_eq_true hp), rfl⟩
  intro site hsite
  simpa using hbefore site hsite

/-- A rule with a leaf that holds matches at some place. -/
theorem exists_matchesAt_of_leaf
    (hleads : (Clause.rule r).at? path = some (.rule (.predicate p))) (hp : p.condition.Holds d) :
    ∃ other q, r.MatchesAt d other q ∧ (r.classify d).value = some (q.classification d) := by
  have hsome : ((r.classify d).value).isSome = true := by
    rw [r.value_classify d, Option.isSome_map, firstLeaf?, List.find?_isSome, ← r.map_snd_sites]
    exact ⟨p, List.mem_map.2 ⟨(path, p), mem_sites_iff.2 hleads, rfl⟩, decide_eq_true hp⟩
  obtain ⟨c, hc⟩ := Option.isSome_iff_exists.1 hsome
  obtain ⟨other, q, hmatch, rfl⟩ := exists_matchesAt hc
  exact ⟨other, q, hmatch, hc⟩

/-- There is only one place at which a rule matches a document. -/
theorem MatchesAt.unique {other : ClausePath} {q : Predicate} (h : r.MatchesAt d path p)
    (h' : r.MatchesAt d other q) : other = path ∧ q = p := by
  have hpath : other = path := by
    rcases h.first other q h'.leads h'.holds with heq | hright
    · exact heq
    · rcases h'.first path p h.leads h.holds with heq | hleft
      · exact heq.symm
      · exact absurd hleft hright.asymm
  subst hpath
  have hclause := Option.some.inj (h'.leads.symm.trans h.leads)
  exact ⟨rfl, Rule.predicate.inj (Clause.rule.inj hclause)⟩

/-- A rule classifies a document as the leaf at the place at which it matches. -/
theorem MatchesAt.value_classify (h : r.MatchesAt d path p) :
    (r.classify d).value = some (p.classification d) := by
  obtain ⟨other, q, hother, hvalue⟩ := exists_matchesAt_of_leaf h.leads h.holds
  obtain ⟨-, rfl⟩ := h.unique hother
  exact hvalue

end Rule

end Prospector
