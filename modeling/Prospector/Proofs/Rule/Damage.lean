import Prospector.Proofs.Rule.Lookup
import Prospector.Proofs.Rule.Match

/-!
# Damaged rules

A clause that is malformed only ever fails to match. Wherever clauses of a rule are put out of
order, a document that is still classified was classified before, and by the same leaf or one
further left, as every condition that still holds has held before. A leaf that is left alone
together with all that it stands in still matches, and as nothing further left can have come up it
still decides. A malformed clause in a group of which one member is enough may as well not be there.

## Main definitions

* `Faults`, `Rule.damaged` : faults at given places, and a rule with these faults.
* `Rule.Sheds` : whether a rule becomes another one by losing a malformed alternative.

## Main results

* `Condition.holds_of_damaged` : a damaged condition that holds has held before.
* `Clause.at?_damaged`, `Clause.exists_of_at?_damaged` : the clauses of a damaged rule.
* `Rule.MatchesAt.damaged` : a rule still matches at a place that is left alone.
* `Rule.damaged_loses` : damage only ever takes matches away.
-/

namespace Prospector

/-! ## Faults -/

/-- Faults in a rule: what is wrong with the clauses that are out of order, by the paths to them. -/
def Faults := ClausePath → Option ClauseFlaw

namespace Faults

/-- The faults inside the clause that a path leads to, by the paths from there. -/
def under (faults : Faults) (path : ClausePath) : Faults :=
  fun further => faults (path ++ further)

/-- What is left of a clause: a malformed one if it is out of order itself. -/
def leave {α : Type} (faults : Faults) (malformed : ClauseFlaw → α) (kept : α) : α :=
  match faults [] with
  | some flaw => malformed flaw
  | none => kept

variable {α : Type} {faults : Faults} {malformed : ClauseFlaw → α} {kept : α}

theorem leave_of_none (h : faults [] = none) : faults.leave malformed kept = kept := by
  rw [leave, h]

theorem leave_of_some {flaw : ClauseFlaw} (h : faults [] = some flaw) :
    faults.leave malformed kept = malformed flaw := by
  rw [leave, h]

end Faults

mutual

/-- A condition with faults. -/
def Condition.damaged (faults : Faults) : Condition → Condition
  | .all conditions => faults.leave .malformed (.all (damagedConditions faults .all 0 conditions))
  | .any conditions => faults.leave .malformed (.any (damagedConditions faults .any 0 conditions))
  | .tag check => faults.leave .malformed (.tag check)
  | .malformed flaw => faults.leave .malformed (.malformed flaw)

/-- The conditions of a group with faults, the first of which has the given index. -/
def damagedConditions (faults : Faults) (step : Nat → ClauseStep) (index : Nat) :
    List Condition → List Condition
  | [] => []
  | c :: rest =>
    c.damaged (faults.under [step index]) :: damagedConditions faults step (index + 1) rest

end

/-- A predicate with faults in its condition. -/
def Predicate.damaged (faults : Faults) (p : Predicate) : Predicate :=
  { p with condition := p.condition.damaged (faults.under [.condition]) }

mutual

/-- A rule with faults. -/
def Rule.damaged (faults : Faults) : Rule → Rule
  | .oneOf rules => faults.leave .malformed (.oneOf (damagedRules faults 0 rules))
  | .predicate p => faults.leave .malformed (.predicate (p.damaged faults))
  | .malformed flaw => faults.leave .malformed (.malformed flaw)

/-- The alternatives of a rule with faults, the first of which has the given index. -/
def damagedRules (faults : Faults) (index : Nat) : List Rule → List Rule
  | [] => []
  | r :: rest =>
    r.damaged (faults.under [.alternative index]) :: damagedRules faults (index + 1) rest

end

/-- A clause with faults. Extractions have none. -/
def Clause.damaged (faults : Faults) : Clause → Clause
  | .rule r => .rule (r.damaged faults)
  | .condition c => .condition (c.damaged faults)
  | .extraction x => .extraction x

/-! ## Damaged conditions -/

theorem Condition.holds_of_leave {d : Document} {faults : Faults} {kept : Condition}
    (h : (faults.leave .malformed kept).Holds d) : kept.Holds d := by
  cases hfault : faults [] with
  | none => rwa [Faults.leave_of_none hfault] at h
  | some flaw =>
      rw [Faults.leave_of_some hfault] at h
      exact absurd h (not_holds_malformed flaw)

mutual

/-- A damaged condition that holds has held before. -/
theorem Condition.holds_of_damaged {d : Document} : ∀ (c : Condition) (faults : Faults),
    (c.damaged faults).Holds d → c.Holds d
  | .all conditions, faults, h => by
      have hall := Condition.holds_all_iff.1 (Condition.holds_of_leave h)
      exact Condition.holds_all_iff.2 (forall_holds_of_damaged conditions faults .all 0 hall)
  | .any conditions, faults, h => by
      have hany := Condition.holds_any_iff.1 (Condition.holds_of_leave h)
      exact Condition.holds_any_iff.2 (exists_holds_of_damaged conditions faults .any 0 hany)
  | .tag _, _, h => Condition.holds_of_leave h
  | .malformed _, _, h => Condition.holds_of_leave h

theorem forall_holds_of_damaged {d : Document} : ∀ (conditions : List Condition) (faults : Faults)
    (step : Nat → ClauseStep) (index : Nat),
    (∀ c ∈ damagedConditions faults step index conditions, c.Holds d) →
      ∀ c ∈ conditions, c.Holds d
  | [], _, _, _, _ => fun _ hc => absurd hc List.not_mem_nil
  | c :: rest, faults, step, index, h => by
      obtain ⟨hc, hrest⟩ := List.forall_mem_cons.1 h
      exact List.forall_mem_cons.2 ⟨c.holds_of_damaged _ hc,
        forall_holds_of_damaged rest faults step (index + 1) hrest⟩

theorem exists_holds_of_damaged {d : Document} : ∀ (conditions : List Condition) (faults : Faults)
    (step : Nat → ClauseStep) (index : Nat),
    (∃ c ∈ damagedConditions faults step index conditions, c.Holds d) →
      ∃ c ∈ conditions, c.Holds d
  | [], _, _, _, ⟨_, hc, _⟩ => absurd hc List.not_mem_nil
  | c :: rest, faults, step, index, h => by
      rcases (List.exists_mem_cons_iff _ _ _).1 h with hc | hrest
      · exact (List.exists_mem_cons_iff _ _ _).2 (.inl (c.holds_of_damaged _ hc))
      · exact (List.exists_mem_cons_iff _ _ _).2
          (.inr (exists_holds_of_damaged rest faults step (index + 1) hrest))

end

mutual

/-- A condition without faults is left as it is. -/
theorem Condition.damaged_eq_self : ∀ (c : Condition) (faults : Faults),
    (∀ path, faults path = none) → c.damaged faults = c
  | .all conditions, faults, h => by
      rw [Condition.damaged, Faults.leave_of_none (h []),
        damagedConditions_eq_self conditions faults _ _ h]
  | .any conditions, faults, h => by
      rw [Condition.damaged, Faults.leave_of_none (h []),
        damagedConditions_eq_self conditions faults _ _ h]
  | .tag _, _, h => Faults.leave_of_none (h [])
  | .malformed _, _, h => Faults.leave_of_none (h [])

theorem damagedConditions_eq_self : ∀ (conditions : List Condition) (faults : Faults)
    (step : Nat → ClauseStep) (index : Nat), (∀ path, faults path = none) →
      damagedConditions faults step index conditions = conditions
  | [], _, _, _, _ => rfl
  | c :: rest, faults, step, index, h => by
      rw [damagedConditions, c.damaged_eq_self (faults.under [step index]) fun _ => h _,
        damagedConditions_eq_self rest faults step (index + 1) h]

end

/-! ## Clauses of a damaged rule -/

theorem getElem?_damagedConditions (faults : Faults) (step : Nat → ClauseStep) (index i : Nat)
    (conditions : List Condition) : (damagedConditions faults step index conditions)[i]? =
      conditions[i]?.map (Condition.damaged (faults.under [step (index + i)])) := by
  induction conditions generalizing index i with
  | nil => rfl
  | cons c conditions ih =>
      cases i with
      | zero => rfl
      | succ i =>
          rw [damagedConditions, List.getElem?_cons_succ, ih, List.getElem?_cons_succ,
            Nat.add_right_comm, Nat.add_assoc]

theorem getElem?_damagedRules (faults : Faults) (index i : Nat) (rules : List Rule) :
    (damagedRules faults index rules)[i]? =
      rules[i]?.map (Rule.damaged (faults.under [.alternative (index + i)])) := by
  induction rules generalizing index i with
  | nil => rfl
  | cons r rules ih =>
      cases i with
      | zero => rfl
      | succ i =>
          rw [damagedRules, List.getElem?_cons_succ, ih, List.getElem?_cons_succ,
            Nat.add_right_comm, Nat.add_assoc]

namespace Clause

/-- A clause that is out of order has nothing inside. -/
theorem inner?_damaged_of_some {faults : Faults} {flaw : ClauseFlaw} (h : faults [] = some flaw)
    (c : Clause) (step : ClauseStep) : (c.damaged faults).inner? step = none := by
  cases c with
  | rule r => cases r <;> rw [damaged, Rule.damaged, Faults.leave_of_some h] <;> cases step <;> rfl
  | condition condition =>
      cases condition <;> rw [damaged, Condition.damaged, Faults.leave_of_some h] <;>
        cases step <;> rfl
  | extraction x => cases step <;> rfl

/-- The faults of a clause that is in order itself are those of the clauses inside. -/
theorem inner?_damaged_of_none {faults : Faults} (h : faults [] = none) (c : Clause)
    (step : ClauseStep) : (c.damaged faults).inner? step =
      (c.inner? step).map (Clause.damaged (faults.under [step])) := by
  cases c with
  | rule r =>
      cases r with
      | oneOf rules =>
          rw [damaged, Rule.damaged, Faults.leave_of_none h]
          cases step with
          | alternative i =>
              simp only [inner?, getElem?_damagedRules, Option.map_map, Nat.zero_add]
              rfl
          | condition | all _ | any _ | extraction => rfl
      | predicate p =>
          rw [damaged, Rule.damaged, Faults.leave_of_none h]
          cases step with
          | extraction =>
              show p.extraction.map Clause.extraction = (p.extraction.map Clause.extraction).map _
              rw [Option.map_map]
              rfl
          | alternative _ | condition | all _ | any _ => rfl
      | malformed flaw =>
          rw [damaged, Rule.damaged, Faults.leave_of_none h]
          cases step <;> rfl
  | condition condition =>
      cases condition with
      | all conditions =>
          rw [damaged, Condition.damaged, Faults.leave_of_none h]
          cases step with
          | all i =>
              simp only [inner?, getElem?_damagedConditions, Option.map_map, Nat.zero_add]
              rfl
          | alternative _ | condition | any _ | extraction => rfl
      | any conditions =>
          rw [damaged, Condition.damaged, Faults.leave_of_none h]
          cases step with
          | any i =>
              simp only [inner?, getElem?_damagedConditions, Option.map_map, Nat.zero_add]
              rfl
          | alternative _ | condition | all _ | extraction => rfl
      | tag _ | malformed _ =>
          rw [damaged, Condition.damaged, Faults.leave_of_none h]
          cases step <;> rfl
  | extraction x => cases step <;> rfl

/-- What a path leads to in a damaged clause is what it led to before, with the faults in there. -/
theorem exists_of_at?_damaged {faults : Faults} {c found : Clause} {path : ClausePath}
    (h : (c.damaged faults).at? path = some found) :
    ∃ whole, c.at? path = some whole ∧ found = whole.damaged (faults.under path) := by
  induction path generalizing c faults with
  | nil => exact ⟨c, rfl, (Option.some.inj h).symm⟩
  | cons step path ih =>
      obtain ⟨inner, hinner, hpath⟩ := at?_cons_eq_some_iff.1 h
      cases hfault : faults [] with
      | some flaw =>
          rw [inner?_damaged_of_some hfault] at hinner
          cases hinner
      | none =>
          rw [inner?_damaged_of_none hfault, Option.map_eq_some_iff] at hinner
          obtain ⟨whole, hwhole, rfl⟩ := hinner
          obtain ⟨last, hlast, rfl⟩ := ih hpath
          exact ⟨last, at?_cons_eq_some_iff.2 ⟨whole, hwhole, hlast⟩, rfl⟩

/-- A path along which all is in order still leads to where it led. -/
theorem at?_damaged {faults : Faults} {c whole : Clause} {path : ClausePath}
    (h : c.at? path = some whole) (hpath : ∀ above, above <+: path → faults above = none) :
    (c.damaged faults).at? path = some (whole.damaged (faults.under path)) := by
  induction path generalizing c faults with
  | nil =>
      obtain rfl := Option.some.inj h
      rfl
  | cons step path ih =>
      obtain ⟨inner, hinner, hrest⟩ := at?_cons_eq_some_iff.1 h
      rw [at?_cons_eq_some_iff]
      refine ⟨inner.damaged (faults.under [step]), ?_, ?_⟩
      · rw [inner?_damaged_of_none (hpath [] List.nil_prefix), hinner, Option.map_some]
      · exact ih hrest fun above habove => hpath (step :: above)
          (List.cons_prefix_cons.2 ⟨rfl, habove⟩)

end Clause

theorem Rule.exists_of_damaged_eq_predicate {r : Rule} {faults : Faults} {q : Predicate}
    (h : r.damaged faults = .predicate q) : ∃ p, r = .predicate p ∧ q = p.damaged faults := by
  cases hfault : faults [] with
  | some flaw => cases r <;> rw [damaged, Faults.leave_of_some hfault] at h <;> cases h
  | none =>
      cases r with
      | predicate p =>
          rw [damaged, Faults.leave_of_none hfault] at h
          exact ⟨p, rfl, (predicate.inj h).symm⟩
      | oneOf _ | malformed _ =>
          rw [damaged, Faults.leave_of_none hfault] at h
          cases h

/-- The leaves of a damaged rule are leaves of the rule, with the faults in their conditions. -/
theorem Rule.exists_leaf_of_damaged {r : Rule} {faults : Faults} {path : ClausePath}
    {q : Predicate}
    (h : (Clause.rule (r.damaged faults)).at? path = some (.rule (.predicate q))) :
    ∃ p, (Clause.rule r).at? path = some (.rule (.predicate p)) ∧
      q = p.damaged (faults.under path) := by
  obtain ⟨whole, hwhole, heq⟩ := Clause.exists_of_at?_damaged (c := .rule r) h
  cases whole with
  | rule inner =>
      obtain ⟨p, rfl, hq⟩ := exists_of_damaged_eq_predicate (Clause.rule.inj heq).symm
      exact ⟨p, hwhole, hq⟩
  | condition _ | extraction _ => cases heq

/-- A leaf of a damaged rule that holds is a leaf of the rule, and held there. -/
theorem Rule.exists_leaf_of_damaged_holds {d : Document} {r : Rule} {faults : Faults}
    {path : ClausePath} {q : Predicate}
    (h : (Clause.rule (r.damaged faults)).at? path = some (.rule (.predicate q)))
    (hq : q.condition.Holds d) :
    ∃ p, (Clause.rule r).at? path = some (.rule (.predicate p)) ∧
      q = p.damaged (faults.under path) ∧ p.condition.Holds d := by
  obtain ⟨p, hp, rfl⟩ := exists_leaf_of_damaged h
  exact ⟨p, hp, rfl, p.condition.holds_of_damaged _ hq⟩

/-- The place at which a rule matches stays when it is left alone with all that it stands in and
with its condition: nothing further left comes up. -/
theorem Rule.MatchesAt.damaged {d : Document} {r : Rule} {path : ClausePath} {p : Predicate}
    {faults : Faults} (h : r.MatchesAt d path p)
    (habove : ∀ above, above <+: path → faults above = none)
    (hcondition : ∀ further, faults (path ++ .condition :: further) = none) :
    (r.damaged faults).MatchesAt d path p where
  leads := by
    have hspared : p.damaged (faults.under path) = p := by
      have hsame := p.condition.damaged_eq_self ((faults.under path).under [.condition]) hcondition
      rw [Predicate.damaged, hsame]
    have hself : (Rule.predicate p).damaged (faults.under path) = .predicate p := by
      rw [Rule.damaged, hspared]
      refine Faults.leave_of_none ?_
      show faults (path ++ []) = none
      rw [List.append_nil]
      exact habove path List.prefix_rfl
    have hat := Clause.at?_damaged h.leads habove
    exact hat.trans (congrArg (fun rule => some (Clause.rule rule)) hself)
  holds := h.holds
  first := by
    intro other q hother hq
    obtain ⟨whole, hwhole, -, hholds⟩ := exists_leaf_of_damaged_holds hother hq
    exact h.first other whole hwhole hholds

/-! ## Groups without malformed members -/

/-- A condition that becomes another one by losing a malformed member of a group of which one is
enough, however deep it stands. -/
inductive Condition.Sheds : Condition → Condition → Prop
  | here {before after : List Condition} {flaw : ClauseFlaw} :
      Sheds (.any (before ++ .malformed flaw :: after)) (.any (before ++ after))
  | all {before after : List Condition} {c other : Condition} : Sheds c other →
      Sheds (.all (before ++ c :: after)) (.all (before ++ other :: after))
  | any {before after : List Condition} {c other : Condition} : Sheds c other →
      Sheds (.any (before ++ c :: after)) (.any (before ++ other :: after))

/-- A rule that becomes another one by losing a malformed alternative or, in a condition, a
malformed member of a group of which one is enough, however deep it stands. -/
inductive Rule.Sheds : Rule → Rule → Prop
  | here {before after : List Rule} {flaw : ClauseFlaw} :
      Sheds (.oneOf (before ++ .malformed flaw :: after)) (.oneOf (before ++ after))
  | oneOf {before after : List Rule} {r other : Rule} : Sheds r other →
      Sheds (.oneOf (before ++ r :: after)) (.oneOf (before ++ other :: after))
  | predicate {p : Predicate} {condition : Condition} : p.condition.Sheds condition →
      Sheds (.predicate p) (.predicate { p with condition := condition })

theorem evaluateAll_congr {d : Document} {c other : Condition}
    (h : c.evaluate d = other.evaluate d) (before after : List Condition) :
    evaluateAll d (before ++ c :: after) = evaluateAll d (before ++ other :: after) := by
  induction before with
  | nil => rw [List.nil_append, List.nil_append, evaluateAll, h, evaluateAll]
  | cons first before ih =>
      rw [List.cons_append, List.cons_append, evaluateAll, ih, evaluateAll]

theorem evaluateAny_congr {d : Document} {c other : Condition}
    (h : c.evaluate d = other.evaluate d) (before after : List Condition) :
    evaluateAny d (before ++ c :: after) = evaluateAny d (before ++ other :: after) := by
  induction before with
  | nil => rw [List.nil_append, List.nil_append, evaluateAny, h, evaluateAny]
  | cons first before ih =>
      rw [List.cons_append, List.cons_append, evaluateAny, ih, evaluateAny]

theorem evaluateAny_malformed (d : Document) (before after : List Condition) (flaw : ClauseFlaw) :
    evaluateAny d (before ++ .malformed flaw :: after) = evaluateAny d (before ++ after) := by
  induction before with
  | nil =>
      rw [List.nil_append, List.nil_append, evaluateAny]
      rfl
  | cons first before ih => rw [List.cons_append, List.cons_append, evaluateAny, ih, evaluateAny]

/-- A condition that loses such a member is evaluated by the same lookups to the same truth. -/
theorem Condition.Sheds.evaluate_eq {d : Document} {c other : Condition} (h : c.Sheds other) :
    c.evaluate d = other.evaluate d := by
  induction h with
  | @here before after flaw => exact evaluateAny_malformed d before after flaw
  | @all before after c other _ ih => exact evaluateAll_congr ih before after
  | @any before after c other _ ih => exact evaluateAny_congr ih before after

/-- A rule that loses such a clause runs as it did. -/
theorem Rule.Sheds.classify_eq {d : Document} {r other : Rule} (h : r.Sheds other) :
    r.classify d = other.classify d := by
  induction h with
  | @here before after flaw =>
      show classifyFirst d (before ++ .malformed flaw :: after) = classifyFirst d (before ++ after)
      rw [classifyFirst_append, classifyFirst_append]
      rfl
  | @oneOf before after r other _ ih =>
      show classifyFirst d (before ++ r :: after) = classifyFirst d (before ++ other :: after)
      rw [classifyFirst_append, classifyFirst_append, classifyFirst_cons, classifyFirst_cons, ih]
  | @predicate p condition hsheds =>
      show p.classify d = Predicate.classify d { p with condition := condition }
      rw [Predicate.classify, hsheds.evaluate_eq]
      rfl

/-! ## Damage -/

/-- Malformed clauses only ever take matches away. Wherever clauses of a rule are put out of order,
if a document is still classified, then it was so before, and the place at which the rule matched it
is the one at which the damaged rule does, where the same leaf stood, or one further left. If the
leaf at which the rule matched, all that it stands in and its condition are left alone, the document
is classified as it was. A malformed alternative, or a malformed member of a group of conditions of
which one is enough, makes no difference, neither to what is found nor to what is looked up. -/
theorem Rule.damaged_loses (d : Document) (r : Rule) :
    (∀ (faults : Faults) (c : Classification), ((r.damaged faults).classify d).value = some c →
        ∃ path p other q, r.MatchesAt d path p ∧ (r.damaged faults).MatchesAt d other q ∧
          (path = other ∨ ClausePath.Precedes path other) ∧
          (∃ whole, (Clause.rule r).at? other = some (.rule (.predicate whole)) ∧
            q = whole.damaged (faults.under other)) ∧
          (r.classify d).value = some (p.classification d) ∧ c = q.classification d) ∧
      (∀ (faults : Faults) (path : ClausePath) (p : Predicate), r.MatchesAt d path p →
        (∀ above, above <+: path → faults above = none) →
        (∀ further, faults (path ++ .condition :: further) = none) →
          ((r.damaged faults).classify d).value = (r.classify d).value) ∧
      ∀ other : Rule, r.Sheds other → other.classify d = r.classify d := by
  refine ⟨?_, ?_, fun other hsheds => hsheds.classify_eq.symm⟩
  · intro faults c hc
    obtain ⟨other, q, hdamaged, rfl⟩ := exists_matchesAt hc
    obtain ⟨whole, hwhole, hq, hholds⟩ :=
      exists_leaf_of_damaged_holds hdamaged.leads hdamaged.holds
    obtain ⟨path, p, hmatch, hvalue⟩ := exists_matchesAt_of_leaf hwhole hholds
    refine ⟨path, p, other, q, hmatch, hdamaged, ?_, ⟨whole, hwhole, hq⟩, hvalue, rfl⟩
    exact (hmatch.first other whole hwhole hholds).imp_left Eq.symm
  · intro faults path p hmatch habove hcondition
    rw [(hmatch.damaged habove hcondition).value_classify, hmatch.value_classify]

/-- A fault in the one clause that a path leads to. -/
def Faults.only (path : ClausePath) (flaw : ClauseFlaw) : Faults :=
  fun other => if other = path then some flaw else none

/-- With its condition damaged the leaf for tea gives way to the one behind it; with an alternative
before it damaged it decides as it did, and the malformed alternative in front of all may go. -/
theorem Rule.damaged_loses_leaflet :
    let r := leafletRule none
    let tea : ClausePath := [.alternative 3, .alternative 0]
    let blunted := r.damaged (.only (tea ++ [.condition, .any 1]) .noTag)
    (∃ path p other q, r.MatchesAt .leaflet path p ∧ p.kind = "tea" ∧
        blunted.MatchesAt .leaflet other q ∧ q.kind = "any" ∧ ClausePath.Precedes path other) ∧
      ((r.damaged (.only [.alternative 2] .noType)).classify .leaflet).value =
        some ⟨"tea", none⟩ ∧
      ∃ other : Rule, r.Sheds other ∧ other.classify .leaflet = r.classify .leaflet := by
  intro r tea blunted
  obtain ⟨hloses, hkeeps, hsheds⟩ := damaged_loses .leaflet r
  have hr : (r.classify .leaflet).value = some ⟨"tea", none⟩ := by decide +kernel
  refine ⟨?_, ?_, ?_⟩
  · obtain ⟨path, p, other, q, hpath, hother, hright, ⟨whole, hwhole, hq⟩, hvalue, hkind⟩ :=
      hloses (.only (tea ++ [.condition, .any 1]) .noTag) ⟨"any", none⟩ (by decide +kernel)
    have hp : "tea" = p.kind :=
      congrArg Classification.kind (Option.some.inj (hr.symm.trans hvalue))
    have hany : "any" = q.kind := congrArg Classification.kind hkind
    refine ⟨path, p, other, q, hpath, hp.symm, hother, hany.symm, hright.resolve_left ?_⟩
    rintro rfl
    obtain rfl := Rule.predicate.inj
      (Clause.rule.inj (Option.some.inj (hpath.leads.symm.trans hwhole)))
    rw [hq] at hany
    exact absurd (hp.trans hany.symm) (by decide)
  · have hsites : r.sites = [([.alternative 2, .alternative 0], leafletPrice)] ++
        (tea, leafletTea none) :: _ := rfl
    have hmatch : r.MatchesAt .leaflet tea (leafletTea none) :=
      matchesAt_of_sites hsites (by decide +kernel) (by decide +kernel)
    rw [hkeeps (.only [.alternative 2] .noType) tea _ hmatch ?_ ?_, hr]
    · intro above habove
      refine if_neg ?_
      rintro rfl
      exact absurd habove (by decide)
    · intro further
      exact if_neg (by simp [tea])
  · have hfirst : r.Sheds (.oneOf ([] ++ _)) := @Sheds.here [] _ .noType
    exact ⟨_, hfirst, hsheds _ hfirst⟩

end Prospector
