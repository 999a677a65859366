import Mathlib.Data.List.Lex
import Prospector.Html.Node

/-!
# Places in a document

A node of a document is known by the way to it from the root, since equal nodes may stand in several
places: the index of a child of the root, then that of a child of this child, and so on. Document
order is the order of these places: a node stands before all that is below it, and what is below one
child before what is below a later one. The elements of a tag are listed in this order, each of them
once, so the first of them with a property is the one at the first place.

## Main definitions

* `Node.at?` : the node at a place.
* `Place.Precedes` : document order.
* `Node.FirstAt` : whether a place is the first one at which something holds.

## Main results

* `Node.mem_sites_iff`, `Node.pairwise_sites` : the nodes of a document in document order.
* `Node.elementsOf_eq` : the elements of a tag are those of all nodes that have the tag.
* `Node.find?_elementsOf_iff` : the first element of a tag with a property by its place.
-/

namespace Prospector.Html

/-- The way to a node: indices of children. -/
abbrev Place := List Nat

/-- The order in which places come up when a document is read. -/
def Place.Precedes (p q : Place) : Prop :=
  List.Lex (fun i j => i < j) p q

instance (p q : Place) : Decidable (Place.Precedes p q) :=
  inferInstanceAs (Decidable (List.Lex (fun i j => i < j) p q))

theorem Place.Precedes.asymm {p q : Place} (h : Place.Precedes p q) : ¬Place.Precedes q p :=
  (List.Lex.asymm fun i j : Nat => i < j).asymm p q h

namespace Node

/-- The nodes one level below a node. -/
def children : Node → List Node
  | .element _ _ children | .group children => children
  | .text _ | .comment _ => []

/-- The node at a place. -/
def at? : Node → Place → Option Node
  | n, [] => some n
  | n, i :: place => n.children[i]?.bind fun child => child.at? place

/-- The tag of an element. -/
def tag? : Node → Option String
  | .element name _ _ => some name.tag
  | .group _ | .text _ | .comment _ => none

theorem at?_cons_eq_some_iff {n m : Node} {i : Nat} {place : Place} :
    n.at? (i :: place) = some m ↔ ∃ child, n.children[i]? = some child ∧ child.at? place = some m :=
  Option.bind_eq_some_iff

/-! ## All nodes of a document -/

mutual

/-- A node and all below it with their places, in document order. -/
def sites : Node → List (Place × Node)
  | .element name attrs children => ([], .element name attrs children) :: sitesAmong 0 children
  | .group children => ([], .group children) :: sitesAmong 0 children
  | .text s => [([], .text s)]
  | .comment s => [([], .comment s)]

/-- Nodes and all below them with their places, the first of which has the given index. -/
def sitesAmong (index : Nat) : List Node → List (Place × Node)
  | [] => []
  | n :: rest =>
    n.sites.map (fun site => (index :: site.1, site.2)) ++ sitesAmong (index + 1) rest

end

theorem sites_eq (n : Node) : n.sites = ([], n) :: sitesAmong 0 n.children := by
  cases n <;> rfl

theorem mem_sitesAmong_iff {nodes : List Node} {index : Nat} {place : Place} {m : Node} :
    (place, m) ∈ sitesAmong index nodes ↔
      ∃ i rest n, place = (index + i) :: rest ∧ nodes[i]? = some n ∧ (rest, m) ∈ n.sites := by
  induction nodes generalizing index with
  | nil => simp [sitesAmong]
  | cons n nodes ih =>
      rw [sitesAmong, List.mem_append, ih]
      constructor
      · intro h
        rcases h with h | ⟨i, rest, n', rfl, hn, hm⟩
        · obtain ⟨site, hsite, heq⟩ := List.mem_map.1 h
          obtain ⟨rfl, rfl⟩ := Prod.mk.inj heq
          exact ⟨0, site.1, n, rfl, rfl, hsite⟩
        · refine ⟨i + 1, rest, n', ?_, hn, hm⟩
          rw [show index + (i + 1) = index + 1 + i by omega]
      · rintro ⟨i, rest, n', rfl, hn, hm⟩
        cases i with
        | zero =>
            obtain rfl : n = n' := by simpa using hn
            exact .inl (List.mem_map.2 ⟨(rest, m), hm, rfl⟩)
        | succ i =>
            refine .inr ⟨i, rest, n', ?_, hn, hm⟩
            rw [show index + (i + 1) = index + 1 + i by omega]

/-- What is listed with a place stands there. -/
theorem mem_sites_iff {n m : Node} {place : Place} :
    (place, m) ∈ n.sites ↔ n.at? place = some m := by
  induction place generalizing n with
  | nil =>
      have hamong : ([], m) ∉ sitesAmong 0 n.children := by
        intro h
        obtain ⟨i, rest, n', heq, -, -⟩ := mem_sitesAmong_iff.1 h
        cases heq
      rw [sites_eq, List.mem_cons, or_iff_left hamong, at?]
      simp [eq_comm]
  | cons i place ih =>
      rw [sites_eq, List.mem_cons, mem_sitesAmong_iff, at?_cons_eq_some_iff]
      constructor
      · rintro (heq | ⟨j, rest, child, heq, hchild, hm⟩)
        · cases heq
        · simp only [Nat.zero_add, List.cons.injEq] at heq
          obtain ⟨rfl, rfl⟩ := heq
          exact ⟨child, hchild, ih.1 hm⟩
      · rintro ⟨child, hchild, hm⟩
        exact .inr ⟨i, place, child, by simp, hchild, ih.2 hm⟩

mutual

/-- Nodes are listed in document order, and none is listed twice. -/
theorem pairwise_sites : ∀ n : Node, n.sites.Pairwise fun a b => Place.Precedes a.1 b.1
  | .element _ _ children | .group children => by
      refine List.pairwise_cons.2 ⟨?_, pairwise_sitesAmong children 0⟩
      intro site hsite
      obtain ⟨i, rest, n, heq, -, -⟩ := mem_sitesAmong_iff.1 hsite
      rw [heq]
      exact .nil
  | .text _ | .comment _ => List.pairwise_singleton _ _

theorem pairwise_sitesAmong : ∀ (nodes : List Node) (index : Nat),
    (sitesAmong index nodes).Pairwise fun a b => Place.Precedes a.1 b.1
  | [], _ => .nil
  | n :: rest, index => by
      rw [sitesAmong, List.pairwise_append]
      refine ⟨?_, pairwise_sitesAmong rest (index + 1), ?_⟩
      · rw [List.pairwise_map]
        exact n.pairwise_sites.imp fun h => .cons h
      · intro a ha b hb
        obtain ⟨site, -, rfl⟩ := List.mem_map.1 ha
        obtain ⟨i, below, _, heq, -, -⟩ := mem_sitesAmong_iff.1 hb
        rw [heq]
        exact .rel (by omega)

end

mutual

/-- The elements of a tag are the nodes with that tag, in document order. -/
theorem elementsOf_eq (tag : String) : ∀ n : Node,
    n.elementsOf tag = (n.sites.map Prod.snd).filter fun m => m.tag? == some tag
  | .element name attrs children => by
      have hchildren := elementsAmong_eq tag children 0
      by_cases htag : name.tag = tag
      · simp [elementsOf, sites, tag?, htag, hchildren]
      · simp [elementsOf, sites, tag?, htag, hchildren]
  | .group children => by
      have hchildren := elementsAmong_eq tag children 0
      simp [elementsOf, sites, tag?, hchildren]
  | .text _ | .comment _ => by simp [elementsOf, sites, tag?]

theorem elementsAmong_eq (tag : String) : ∀ (nodes : List Node) (index : Nat),
    elementsAmong tag nodes =
      ((sitesAmong index nodes).map Prod.snd).filter fun m => m.tag? == some tag
  | [], _ => rfl
  | n :: rest, index => by
      have hhead := elementsOf_eq tag n
      have hrest := elementsAmong_eq tag rest (index + 1)
      simp [elementsAmong, sitesAmong, hhead, hrest, Function.comp_def]

end

/-! ## First places -/

/-- Something holds of the node at a place, and of no node at an earlier place. -/
structure FirstAt (root : Node) (P : Node → Prop) (place : Place) (n : Node) : Prop where
  stands : root.at? place = some n
  holds : P n
  first : ∀ other m, root.at? other = some m → P m → other = place ∨ Place.Precedes place other

variable {root n : Node} {P : Node → Prop} {place : Place}

theorem FirstAt.unique {other : Place} {m : Node} (h : root.FirstAt P place n)
    (h' : root.FirstAt P other m) : other = place ∧ m = n := by
  have hplace : other = place := by
    rcases h.first other m h'.stands h'.holds with heq | hafter
    · exact heq
    · rcases h'.first place n h.stands h.holds with heq | hbefore
      · exact heq.symm
      · exact absurd hbefore hafter.asymm
  subst hplace
  exact ⟨rfl, Option.some.inj (h'.stands.symm.trans h.stands)⟩

theorem firstAt_of_sites {before after : List (Place × Node)}
    (hsites : root.sites = before ++ (place, n) :: after) (hbefore : ∀ site ∈ before, ¬P site.2)
    (hn : P n) : root.FirstAt P place n where
  stands := by
    rw [← mem_sites_iff, hsites]
    simp
  holds := hn
  first := by
    intro other m hother hm
    rw [← mem_sites_iff, hsites] at hother
    rcases List.mem_append.1 hother with hother | hother
    · exact absurd hm (hbefore _ hother)
    · rcases List.mem_cons.1 hother with heq | hother
      · exact .inl (Prod.mk.inj heq).1
      · have hordered := root.pairwise_sites
        rw [hsites, List.pairwise_append, List.pairwise_cons] at hordered
        exact .inr (hordered.2.1.1 _ hother)

/-- An element of a tag is one that stands in some place. -/
theorem mem_elementsOf_iff {tag : String} :
    n ∈ root.elementsOf tag ↔ ∃ place, root.at? place = some n ∧ n.tag? = some tag := by
  rw [elementsOf_eq, List.mem_filter, List.mem_map]
  constructor
  · rintro ⟨⟨⟨place, m⟩, hsite, rfl⟩, htag⟩
    exact ⟨place, mem_sites_iff.1 hsite, by simpa using htag⟩
  · rintro ⟨place, hstands, htag⟩
    exact ⟨⟨(place, n), mem_sites_iff.2 hstands, rfl⟩, by simpa using htag⟩

/-- The first element of a tag with a property is the one at the first place that has such an
element. -/
theorem find?_elementsOf_iff {tag : String} {q : Node → Bool} :
    (root.elementsOf tag).find? q = some n ↔
      ∃ place, root.FirstAt (fun m => m.tag? = some tag ∧ q m = true) place n := by
  have hfound : ∀ {m : Node}, (root.elementsOf tag).find? q = some m →
      ∃ place, root.FirstAt (fun m => m.tag? = some tag ∧ q m = true) place m := by
    intro m h
    rw [elementsOf_eq, List.find?_filter, List.find?_map, Option.map_eq_some_iff] at h
    obtain ⟨⟨place, m⟩, hsite, rfl⟩ := h
    obtain ⟨hm, before, after, hsites, hbefore⟩ := List.find?_eq_some_iff_append.1 hsite
    refine ⟨place, firstAt_of_sites hsites ?_ (by simpa using hm)⟩
    rintro site hmem ⟨htag, hq⟩
    have hnot := hbefore site hmem
    simp [htag, hq] at hnot
  constructor
  · exact hfound
  · rintro ⟨place, hfirst⟩
    -- the element at `place` is among those of the tag, so one is found, and only one is first
    have hmem : n ∈ root.elementsOf tag :=
      mem_elementsOf_iff.2 ⟨place, hfirst.stands, hfirst.holds.1⟩
    have hsome : ((root.elementsOf tag).find? q).isSome = true :=
      List.find?_isSome.2 ⟨n, hmem, hfirst.holds.2⟩
    obtain ⟨m, hm⟩ := Option.isSome_iff_exists.1 hsome
    obtain ⟨other, hother⟩ := hfound hm
    rw [hm, (hfirst.unique hother).2]

end Node

end Prospector.Html
