import Prospector.Files.Tree
import Prospector.Proofs.Text.Parts

/-!
# What changes in file trees

Paths lead through directories, so they lead where they led as long as directories stay directories.
A file that is written or moved changes what stands at its own places only, and making directories
changes nothing that stood there before.

## Main definitions

* `FileTree.KeepsDirectories` : whether all directories of a tree are directories in another one.
* `FileTree.Extends` : whether everything that stands in a tree stands in another one.
* `FileTree.SameBut` : whether nothing but the content of one file tells two trees apart.

## Main results

* `FileTree.follow_of_keeps` : paths lead where they led.
* `FileTree.entry?_of_isPrefix` : the way to a place leads through directories.
* `FileTree.read_eq_ok` : what the content of a file says about the tree.
* `FileTree.eq_steps_of_follow` : a path without `..` leads to the place that its steps name.
* `FileTree.extends_createDirectories`, `FileTree.entry?_createDirectories` : what stood before
  directories were made still stands, and directories on the way are all that is new.
-/

namespace Prospector.FileTree

variable {t t' : FileTree} {place other : Place} {path : String}

/-! ## One place -/

theorem lookup_setEntry_self (place : Place) (entry : FileEntry)
    (entries : List (Place × FileEntry)) :
    (setEntry place entry entries).lookup place = some entry := by
  induction entries with
  | nil => simp [setEntry]
  | cons first entries ih =>
      obtain ⟨p, e⟩ := first
      rw [setEntry]
      split
      · next heq => simp [heq]
      · next hne =>
        have hbeq : (place == p) = false := beq_false_of_ne (Ne.symm hne)
        rw [List.lookup_cons, hbeq]
        exact ih

theorem lookup_setEntry_of_ne (h : other ≠ place) (entry : FileEntry)
    (entries : List (Place × FileEntry)) :
    (setEntry place entry entries).lookup other = entries.lookup other := by
  have hplace : (other == place) = false := beq_false_of_ne h
  induction entries with
  | nil => simp [setEntry, List.lookup_cons, hplace]
  | cons first entries ih =>
      obtain ⟨p, e⟩ := first
      rw [setEntry]
      split
      · next heq =>
        subst heq
        simp [List.lookup_cons, hplace]
      · rw [List.lookup_cons, List.lookup_cons, ih]

theorem lookup_moveEntry_self {origin : Place} (h : origin ≠ place)
    (entries : List (Place × FileEntry)) :
    (moveEntry origin place entries).lookup place = entries.lookup origin := by
  induction entries with
  | nil => rfl
  | cons first entries ih =>
      obtain ⟨p, e⟩ := first
      rw [moveEntry]
      by_cases hp : p = place
      · have hbeq : (origin == p) = false := beq_false_of_ne (hp ▸ h)
        rw [if_pos hp, ih, List.lookup_cons, hbeq]
      · rw [if_neg hp, List.lookup_cons, List.lookup_cons, ih]
        by_cases horigin : p = origin
        · rw [if_pos horigin, horigin, beq_self_eq_true, beq_self_eq_true]
        · have hplace : (place == p) = false := beq_false_of_ne (Ne.symm hp)
          have hbeq : (origin == p) = false := beq_false_of_ne (Ne.symm horigin)
          rw [if_neg horigin, hplace, hbeq]

theorem lookup_moveEntry_origin {origin : Place} (h : origin ≠ place)
    (entries : List (Place × FileEntry)) :
    (moveEntry origin place entries).lookup origin = none := by
  induction entries with
  | nil => rfl
  | cons first entries ih =>
      obtain ⟨p, e⟩ := first
      rw [moveEntry]
      by_cases hp : p = place
      · rw [if_pos hp, ih]
      · have hbeq : (origin == if p = origin then place else p) = false := by
          split
          · exact beq_false_of_ne h
          · next hother => exact beq_false_of_ne (Ne.symm hother)
        rw [if_neg hp, List.lookup_cons, hbeq]
        exact ih

theorem lookup_moveEntry_of_ne {origin : Place} (horigin : other ≠ origin) (hplace : other ≠ place)
    (entries : List (Place × FileEntry)) :
    (moveEntry origin place entries).lookup other = entries.lookup other := by
  induction entries with
  | nil => rfl
  | cons first entries ih =>
      obtain ⟨p, e⟩ := first
      rw [moveEntry]
      by_cases hp : p = place
      · have hbeq : (other == p) = false := beq_false_of_ne (hp ▸ hplace)
        rw [if_pos hp, ih, List.lookup_cons, hbeq]
      · rw [if_neg hp, List.lookup_cons, List.lookup_cons, ih]
        by_cases hsame : p = origin
        · have hbeq : (other == p) = false := beq_false_of_ne (hsame ▸ horigin)
          rw [if_pos hsame, beq_false_of_ne hplace, hbeq]
        · rw [if_neg hsame]

theorem entry?_of_ne_nil (h : place ≠ []) (t : FileTree) :
    t.entry? place = t.entries.lookup place := by
  cases place with
  | nil => exact absurd rfl h
  | cons name rest => rfl

theorem entry?_set_self (h : place ≠ []) (t : FileTree) (entry : FileEntry) :
    entry? (t.set place entry) place = some entry := by
  rw [entry?_of_ne_nil h]
  exact lookup_setEntry_self place entry t.entries

theorem entry?_set_of_ne (h : other ≠ place) (t : FileTree) (entry : FileEntry) :
    entry? (t.set place entry) other = t.entry? other := by
  cases other with
  | nil => rfl
  | cons name rest => exact lookup_setEntry_of_ne h entry t.entries

theorem entry?_move_self {origin : Place} (horigin : origin ≠ []) (hplace : place ≠ [])
    (t : FileTree) : entry? (t.move origin place) place = t.entry? origin := by
  unfold move
  split
  · next hsame => rw [hsame]
  · next hne =>
    rw [entry?_of_ne_nil hplace, entry?_of_ne_nil horigin]
    exact lookup_moveEntry_self hne t.entries

theorem entry?_move_origin {origin : Place} (horigin : origin ≠ []) (hne : origin ≠ place)
    (t : FileTree) : entry? (t.move origin place) origin = none := by
  rw [move, if_neg hne, entry?_of_ne_nil horigin]
  exact lookup_moveEntry_origin hne t.entries

theorem entry?_move_of_ne {origin : Place} (horigin : other ≠ origin) (hplace : other ≠ place)
    (t : FileTree) : entry? (t.move origin place) other = t.entry? other := by
  unfold move
  split
  · rfl
  · cases other with
    | nil => rfl
    | cons name rest => exact lookup_moveEntry_of_ne horigin hplace t.entries

@[simp] theorem fate_set (t : FileTree) (place : Place) (entry : FileEntry) :
    (t.set place entry).fate = t.fate := rfl

@[simp] theorem fate_move (t : FileTree) (origin place : Place) :
    (t.move origin place).fate = t.fate := by
  unfold move
  split <;> rfl

/-- Only the root is a directory without standing anywhere. -/
theorem ne_nil_of_not_directory (h : t.entry? place ≠ some .directory) :
    place ≠ [] := by
  rintro rfl
  exact h rfl

/-- A file that is written is no directory. -/
theorem set_ne_directory (h : t.entry? other ≠ some .directory) (place : Place)
    (content : ByteArray) : entry? (t.set place (.file content)) other ≠ some .directory := by
  by_cases hsame : other = place
  · rw [hsame, entry?_set_self (hsame ▸ ne_nil_of_not_directory h)]
    exact nofun
  · rwa [entry?_set_of_ne hsame]

/-- Moving a file makes no directory. -/
theorem move_ne_directory {origin : Place} (horigin : t.entry? origin ≠ some .directory)
    (hplace : t.entry? place ≠ some .directory) (h : t.entry? other ≠ some .directory) :
    entry? (t.move origin place) other ≠ some .directory := by
  have hnil := ne_nil_of_not_directory horigin
  by_cases hmoved : other = place
  · rwa [hmoved, entry?_move_self hnil (ne_nil_of_not_directory hplace)]
  · by_cases hgone : other = origin
    · subst hgone
      rw [entry?_move_origin hnil hmoved]
      exact nofun
    · rwa [entry?_move_of_ne hgone hmoved]

/-! ## Directories -/

/-- Whether all directories of a tree are directories in another one. -/
def KeepsDirectories (t t' : FileTree) : Prop :=
  ∀ place, t.entry? place = some .directory → t'.entry? place = some .directory

/-- Whether everything that stands in a tree stands in another one. -/
def Extends (t t' : FileTree) : Prop :=
  ∀ place entry, t.entry? place = some entry → t'.entry? place = some entry

theorem Extends.keeps (h : Extends t t') : KeepsDirectories t t' :=
  fun place => h place .directory

theorem Extends.trans {t'' : FileTree} (h : Extends t t') (h' : Extends t' t'') : Extends t t'' :=
  fun place entry hentry => h' place entry (h place entry hentry)

theorem KeepsDirectories.trans {t'' : FileTree} (h : KeepsDirectories t t')
    (h' : KeepsDirectories t' t'') : KeepsDirectories t t'' :=
  fun place hplace => h' place (h place hplace)

theorem keeps_set (h : t.entry? place ≠ some .directory) (entry : FileEntry) :
    KeepsDirectories t (t.set place entry) := by
  intro other hother
  have hne : other ≠ place := by
    rintro rfl
    exact h hother
  rw [entry?_set_of_ne hne, hother]

theorem keeps_move {origin : Place} (horigin : t.entry? origin ≠ some .directory)
    (hplace : t.entry? place ≠ some .directory) : KeepsDirectories t (t.move origin place) := by
  intro other hother
  have hneOrigin : other ≠ origin := by
    rintro rfl
    exact horigin hother
  have hnePlace : other ≠ place := by
    rintro rfl
    exact hplace hother
  rw [entry?_move_of_ne hneOrigin hnePlace, hother]

theorem extends_set (h : t.entry? place = none) (entry : FileEntry) :
    Extends t (t.set place entry) := by
  intro other found hother
  have hne : other ≠ place := by
    rintro rfl
    rw [h] at hother
    cases hother
  rw [entry?_set_of_ne hne, hother]

/-! ## Paths -/

/-- A step leads from a directory to the directory itself, to the one above or to a name in it. -/
theorem step_eq_ok {part : String} {next : Place} (h : t.step place part = .ok next) :
    t.entry? place = some .directory ∧
      ((part = "" ∨ part = ".") ∧ next = place ∨ part = ".." ∧ next = place.dropLast ∨
        (part ≠ "" ∧ part ≠ "." ∧ part ≠ "..") ∧ next = place ++ [part]) := by
  unfold step at h
  split at h
  · cases h
  · cases h
  · next hentry =>
    refine ⟨hentry, ?_⟩
    split at h
    · next hstay =>
      exact .inl ⟨by simpa using hstay, (Except.ok.inj h).symm⟩
    · next hstay =>
      have hmove : part ≠ "" ∧ part ≠ "." := by simpa using hstay
      split at h
      · next hup => exact .inr (.inl ⟨hup, (Except.ok.inj h).symm⟩)
      · next hup =>
        split at h
        · cases h
        · exact .inr (.inr ⟨⟨hmove.1, hmove.2, hup⟩, (Except.ok.inj h).symm⟩)

theorem step_of_keeps (hkeeps : KeepsDirectories t t') {part : String} {next : Place}
    (h : t.step place part = .ok next) : t'.step place part = .ok next := by
  have hentry := (step_eq_ok h).1
  unfold step at h ⊢
  rw [hentry] at h
  rw [hkeeps place hentry]
  exact h

theorem foldlM_step_of_keeps (hkeeps : KeepsDirectories t t') {parts : List String} {next : Place}
    (h : parts.foldlM t.step place = .ok next) : parts.foldlM t'.step place = .ok next := by
  induction parts generalizing place with
  | nil => exact h
  | cons part parts ih =>
      rw [List.foldlM_cons] at h ⊢
      obtain ⟨middle, hmiddle, hrest⟩ := bind_eq_ok.1 h
      exact bind_eq_ok.2 ⟨middle, step_of_keeps hkeeps hmiddle, ih hrest⟩

/-- The way to a place leads through directories. -/
theorem entry?_of_isPrefix {parts : List String} {next : Place}
    (hplace : ∀ on, on <+: place → on ≠ place → t.entry? on = some .directory)
    (h : parts.foldlM t.step place = .ok next) {on : Place} (hon : on <+: next)
    (hne : on ≠ next) : t.entry? on = some .directory := by
  induction parts generalizing place with
  | nil =>
      obtain rfl := Except.ok.inj h
      exact hplace on hon hne
  | cons part parts ih =>
      rw [List.foldlM_cons] at h
      obtain ⟨middle, hmiddle, hrest⟩ := bind_eq_ok.1 h
      refine ih (fun on hon hmid => ?_) hrest
      obtain ⟨hentry, ⟨-, rfl⟩ | ⟨-, rfl⟩ | ⟨-, rfl⟩⟩ := step_eq_ok hmiddle
      · exact hplace on hon hmid
      · by_cases hsame : on = place
        · rw [hsame, hentry]
        · exact hplace on (hon.trans (List.dropLast_prefix place)) hsame
      · rcases List.prefix_concat_iff.1 hon with hon | hon
        · exact absurd hon hmid
        · by_cases hsame : on = place
          · rw [hsame, hentry]
          · exact hplace on hon hsame

/-- Parts that stay where they are can be left out. -/
theorem foldlM_step_filter {parts : List String} {next : Place}
    (h : parts.foldlM t.step place = .ok next) :
    (parts.filter fun s => s != "" && s != ".").foldlM t.step place = .ok next := by
  induction parts generalizing place with
  | nil => exact h
  | cons part parts ih =>
      rw [List.foldlM_cons] at h
      obtain ⟨middle, hmiddle, hrest⟩ := bind_eq_ok.1 h
      by_cases hpart : part = "" ∨ part = "."
      · have hstay : middle = place := by
          obtain ⟨-, ⟨-, hstay⟩ | ⟨rfl, -⟩ | ⟨⟨hempty, hdot, -⟩, -⟩⟩ := step_eq_ok hmiddle
          · exact hstay
          · exact absurd hpart (by decide)
          · rcases hpart with hpart | hpart
            · exact absurd hpart hempty
            · exact absurd hpart hdot
        subst hstay
        rw [List.filter_cons_of_neg (by rcases hpart with rfl | rfl <;> decide)]
        exact ih hrest
      · obtain ⟨hempty, hdot⟩ := not_or.1 hpart
        rw [List.filter_cons_of_pos (by simp [hempty, hdot]), List.foldlM_cons]
        exact bind_eq_ok.2 ⟨middle, hmiddle, ih hrest⟩

theorem follow_eq_ok (h : t.follow path = .ok place) :
    (Path.parts path).foldlM t.step [] = .ok place := by
  unfold follow at h
  split at h
  · cases h
  · split at h
    · cases h
    · split at h
      · cases h
      · exact h

/-- Paths lead where they led as long as directories stay directories. -/
theorem follow_of_keeps (hkeeps : KeepsDirectories t t') (h : t.follow path = .ok place) :
    t'.follow path = .ok place := by
  have hparts := foldlM_step_of_keeps hkeeps (follow_eq_ok h)
  unfold follow at h ⊢
  split at h
  · cases h
  · split at h
    · cases h
    · split at h
      · cases h
      · simp_all [followParts]

/-- Parts without `..` lead downwards: to the place named by those that move. -/
theorem eq_of_foldlM_step {parts : List String} (hup : ".." ∉ parts) {next : Place}
    (h : parts.foldlM t.step place = .ok next) :
    next = place ++ parts.filter fun s => s != "" && s != "." := by
  induction parts generalizing place with
  | nil =>
      obtain rfl := Except.ok.inj h
      simp
  | cons part parts ih =>
      rw [List.mem_cons, not_or] at hup
      rw [List.foldlM_cons] at h
      obtain ⟨middle, hmiddle, hrest⟩ := bind_eq_ok.1 h
      rw [ih hup.2 hrest]
      obtain ⟨-, ⟨hstay, rfl⟩ | ⟨rfl, -⟩ | ⟨hmove, rfl⟩⟩ := step_eq_ok hmiddle
      · rw [List.filter_cons_of_neg (by rcases hstay with rfl | rfl <;> decide)]
      · exact absurd rfl hup.1
      · rw [List.filter_cons_of_pos (by simp [hmove]), List.append_assoc]
        rfl

/-- A path without `..` leads to the place that its steps name. -/
theorem eq_steps_of_follow (hup : ".." ∉ Path.parts path) (h : t.follow path = .ok place) :
    place = Path.steps path :=
  eq_of_foldlM_step hup (follow_eq_ok h)

/-! ## Files -/

/-- What the content of a file says about the tree. -/
theorem read_eq_ok {content : ByteArray} :
    t.read path = .ok content ↔
      ∃ place, t.follow path = .ok place ∧ t.entry? place = some (.file content) := by
  unfold read find
  constructor
  · intro h
    obtain ⟨entry, hentry, h⟩ := bind_eq_ok.1 h
    obtain ⟨place, hplace, hentry⟩ := bind_eq_ok.1 hentry
    split at hentry
    · next found hfound =>
      obtain rfl := Except.ok.inj hentry
      split at h
      · obtain rfl := Except.ok.inj h
        exact ⟨place, hplace, hfound⟩
      · cases h
    · cases hentry
  · rintro ⟨place, hplace, hentry⟩
    rw [hplace]
    simp only [bind, Except.bind, hentry]

theorem read_of_extends (h : Extends t t') {content : ByteArray}
    (hread : t.read path = .ok content) : t'.read path = .ok content := by
  obtain ⟨place, hplace, hentry⟩ := read_eq_ok.1 hread
  exact read_eq_ok.2 ⟨place, follow_of_keeps h.keeps hplace, h place _ hentry⟩

/-- A file is written where a path leads to, if no directory stands there: all of it, a part of it
or nothing. -/
theorem write_cases (t : FileTree) (path : String) (content : ByteArray) :
    (∃ fault, t.write path content = (.error fault, t)) ∨
      ∃ place, t.follow path = .ok place ∧ t.entry? place ≠ some .directory ∧
        ((∃ fault bytes, t.write path content =
            (.error fault, t.set place (.file (content.extract 0 bytes)))) ∨
          t.fate place = .done ∧ t.write path content = (.ok (), t.set place (.file content))) := by
  unfold write
  cases hplace : t.follow path with
  | error fault => exact .inl ⟨fault, rfl⟩
  | ok place =>
      simp only
      split
      · exact .inl ⟨_, rfl⟩
      · exact .inl ⟨_, rfl⟩
      · next bytes _ hfree => exact .inr ⟨place, rfl, hfree, .inl ⟨_, bytes, rfl⟩⟩
      · next hfate hfree => exact .inr ⟨place, rfl, hfree, .inr ⟨hfate, rfl⟩⟩

theorem write_of_done (h : t.follow path = .ok place) (hfree : t.entry? place ≠ some .directory)
    (hfate : t.fate place = .done) (content : ByteArray) :
    t.write path content = (.ok (), t.set place (.file content)) := by
  unfold write
  simp only [h, hfate]

theorem write_of_refused (h : t.follow path = .ok place)
    (hfree : t.entry? place ≠ some .directory) (hfate : t.fate place = .refused)
    (content : ByteArray) : t.write path content = (.error .permissionDenied, t) := by
  unfold write
  simp only [h, hfate]

theorem write_of_cut {bytes : Nat} (h : t.follow path = .ok place)
    (hfree : t.entry? place ≠ some .directory) (hfate : t.fate place = .cut bytes)
    (content : ByteArray) : t.write path content =
      (.error .noSpace, t.set place (.file (content.extract 0 bytes))) := by
  unfold write
  simp only [h, hfate]

theorem target_eq_ok (h : t.target path = .ok place) :
    t.follow path = .ok place ∧ t.entry? place ≠ some .directory := by
  unfold target at h
  obtain ⟨found, hfound, h⟩ := bind_eq_ok.1 h
  split at h
  · cases h
  · cases h
  · cases h
  · split at h
    · cases h
    · split at h
      · cases h
      · next hfree =>
        obtain rfl := Except.ok.inj h
        exact ⟨hfound, hfree⟩

/-- Whether something can be moved to a path depends on directories, on where the path leads and on
whether something can be put there. -/
theorem target_of_keeps (hkeeps : KeepsDirectories t t') (hfate : t'.fate = t.fate)
    (h : t.target path = .ok place) (hfree : t'.entry? place ≠ some .directory) :
    t'.target path = .ok place := by
  obtain ⟨hfollow, -⟩ := target_eq_ok h
  unfold target at h ⊢
  rw [hfollow] at h
  rw [follow_of_keeps hkeeps hfollow, hfate]
  simp only [bind, Except.bind] at h ⊢
  split at h
  · cases h
  · cases h
  · cases h
  · split at h
    · cases h
    · next hput =>
      rw [if_neg hput]

/-- A file is moved from where the first path leads to where the second one does. -/
theorem route_eq_ok {source destination : String} {origin : Place} :
    t.route source destination = .ok (origin, place) ↔
      t.follow source = .ok origin ∧ (∃ content, t.entry? origin = some (.file content)) ∧
        t.target destination = .ok place := by
  unfold route
  constructor
  · intro h
    obtain ⟨found, hfound, h⟩ := bind_eq_ok.1 h
    obtain ⟨content, hcontent, h⟩ := bind_eq_ok.1 h
    obtain ⟨free, hfree, h⟩ := bind_eq_ok.1 h
    obtain ⟨rfl, rfl⟩ := Prod.mk.inj (Except.ok.inj h)
    obtain ⟨read, hread, hentry⟩ := read_eq_ok.1 hcontent
    obtain rfl := Except.ok.inj (hfound.symm.trans hread)
    exact ⟨hfound, ⟨content, hentry⟩, hfree⟩
  · rintro ⟨horigin, ⟨content, hentry⟩, hplace⟩
    rw [horigin, read_eq_ok.2 ⟨origin, horigin, hentry⟩, hplace]
    rfl

/-! ## Making directories -/

theorem extends_createFrom (t : FileTree) (place : Place) (parts : List String) :
    Extends t (t.createFrom place parts).2 := by
  induction parts generalizing t place with
  | nil => exact fun _ _ h => h
  | cons part parts ih =>
      rw [createFrom]
      split
      · exact fun _ _ h => h
      · next next _ =>
        split
        · next hfree =>
          split
          · exact fun _ _ h => h
          · exact (extends_set hfree .directory).trans (ih _ next)
        · exact ih t next
        · exact fun _ _ h => h

/-- Directories that were made need not be made again. -/
theorem createFrom_of_keeps {made : FileTree} {parts : List String}
    (h : t.createFrom place parts = (.ok (), made)) (hkeeps : KeepsDirectories made t') :
    t'.createFrom place parts = (.ok (), t') := by
  induction parts generalizing t place with
  | nil => rfl
  | cons part parts ih =>
      have hmade : Extends t made := by
        have hextends := extends_createFrom t place (part :: parts)
        rwa [h] at hextends
      rw [createFrom] at h ⊢
      cases hstep : t.step place part with
      | error fault =>
          rw [hstep] at h
          cases h
      | ok next =>
          obtain ⟨hdirectory, hrest⟩ : made.entry? next = some .directory ∧
              t'.createFrom next parts = (.ok (), t') := by
            rw [hstep] at h
            simp only at h
            split at h
            · next hfree =>
              split at h
              · cases h
              · have hmade := extends_createFrom (t.set next .directory) next parts
                rw [h] at hmade
                have hnext : next ≠ [] := by
                  rintro rfl
                  cases hfree
                exact ⟨hmade next .directory (entry?_set_self hnext t .directory), ih h⟩
            · next hdirectory => exact ⟨hmade next .directory hdirectory, ih h⟩
            · cases h
          rw [step_of_keeps (hmade.keeps.trans hkeeps) hstep]
          simp only [hkeeps next hdirectory]
          exact hrest

theorem createFrom_of_directory {part : String} {parts : List String} {next : Place}
    (hstep : t.step place part = .ok next) (hnext : t.entry? next = some .directory) :
    t.createFrom place (part :: parts) = t.createFrom next parts := by
  rw [createFrom, hstep]
  simp only [hnext]

/-- Making directories once more comes to the same end, and nothing is left to be made. -/
theorem createFrom_again (t : FileTree) (place : Place) (parts : List String) :
    (t.createFrom place parts).2.createFrom place parts = t.createFrom place parts := by
  induction parts generalizing t place with
  | nil => rfl
  | cons part parts ih =>
      cases hstep : t.step place part with
      | error fault =>
          have hrun : t.createFrom place (part :: parts) = (.error fault, t) := by
            rw [createFrom, hstep]
          rw [hrun, hrun]
      | ok next =>
          cases hnext : t.entry? next with
          | none =>
            by_cases hfate : t.fate next = .refused
            · have hrun : t.createFrom place (part :: parts) =
                  (.error .permissionDenied, t) := by
                rw [createFrom, hstep]
                simp only [hnext, if_pos hfate]
              rw [hrun, hrun]
            · have hrun : t.createFrom place (part :: parts) =
                  (t.set next .directory).createFrom next parts := by
                rw [createFrom, hstep]
                simp only [hnext, if_neg hfate]
              have hne : next ≠ [] := by
                rintro rfl
                cases hnext
              have hmade := extends_createFrom (t.set next .directory) next parts
              have hkeeps := (extends_set hnext .directory).keeps.trans hmade.keeps
              rw [hrun, createFrom_of_directory (step_of_keeps hkeeps hstep)
                (hmade next .directory (entry?_set_self hne t .directory))]
              exact ih (t.set next .directory) next
          | some entry =>
              cases entry with
              | directory =>
                  have hmade := extends_createFrom t next parts
                  rw [createFrom_of_directory hstep hnext,
                    createFrom_of_directory (step_of_keeps hmade.keeps hstep)
                      (hmade next .directory hnext)]
                  exact ih t next
              | file content =>
                  have hrun : ∃ fault, t.createFrom place (part :: parts) = (.error fault, t) := by
                    rw [createFrom, hstep]
                    simp only [hnext]
                    exact ⟨_, rfl⟩
                  obtain ⟨fault, hrun⟩ := hrun
                  rw [hrun, hrun]

theorem createDirectories_again (t : FileTree) (path : String) :
    (t.createDirectories path).2.createDirectories path = t.createDirectories path := by
  unfold createDirectories
  by_cases hzero : path.toList.contains '\x00' = true
  · simp only [hzero, if_true]
  · by_cases hlong : pathLimit < path.utf8ByteSize
    · simp only [hzero, hlong, Bool.false_eq_true, if_false, if_true]
    · simp only [hzero, hlong, Bool.false_eq_true, if_false]
      exact createFrom_again t [] (Path.steps path)

/-- Making directories adds directories on the way and nothing else. -/
theorem entry?_createFrom {parts : List String}
    (hnames : ∀ part ∈ parts, part ≠ "" ∧ part ≠ "." ∧ part ≠ "..") (t : FileTree)
    (place other : Place) :
    entry? (t.createFrom place parts).2 other = t.entry? other ∨
      t.entry? other = none ∧ entry? (t.createFrom place parts).2 other = some .directory ∧
        other <+: place ++ parts := by
  induction parts generalizing t place with
  | nil => exact .inl rfl
  | cons part parts ih =>
      obtain ⟨⟨hempty, hdot, hup⟩, hrest⟩ := List.forall_mem_cons.1 hnames
      rw [createFrom]
      split
      · exact .inl rfl
      · next next hstep =>
        have hnext : next = place ++ [part] := by
          obtain ⟨-, ⟨hstay, -⟩ | ⟨hparent, -⟩ | ⟨-, hmove⟩⟩ := step_eq_ok hstep
          · exact absurd hstay (not_or.2 ⟨hempty, hdot⟩)
          · exact absurd hparent hup
          · exact hmove
        have hway : next ++ parts = place ++ part :: parts := by
          rw [hnext, List.append_assoc, List.singleton_append]
        rw [← hway]
        split
        · next hfree =>
          split
          · exact .inl rfl
          · have hrun := ih hrest (t.set next .directory) next
            by_cases hother : other = next
            · -- the directory that is made here stands until the end
              subst hother
              have hne : other ≠ [] := by simp [hnext]
              rw [entry?_set_self hne] at hrun
              rcases hrun with hkept | ⟨hnone, -⟩
              · exact .inr ⟨hfree, hkept, List.prefix_append other parts⟩
              · cases hnone
            · rwa [entry?_set_of_ne hother] at hrun
        · exact ih hrest t next
        · exact .inl rfl

theorem entry?_createDirectories {path : String} (hup : ".." ∉ Path.steps path) (t : FileTree)
    (other : Place) :
    entry? (t.createDirectories path).2 other = t.entry? other ∨
      t.entry? other = none ∧ entry? (t.createDirectories path).2 other = some .directory ∧
        other <+: Path.steps path := by
  unfold createDirectories
  split
  · exact .inl rfl
  · split
    · exact .inl rfl
    · refine entry?_createFrom (fun part hpart => ?_) t [] other
      have hmoves : (part != "" && part != ".") = true := (List.mem_filter.1 hpart).2
      rw [Bool.and_eq_true, bne_iff_ne, bne_iff_ne] at hmoves
      exact ⟨hmoves.1, hmoves.2, ne_of_mem_of_not_mem hpart hup⟩

/-- What stood before directories were made still stands. -/
theorem createDirectories_of_keeps {made : FileTree}
    (h : t.createDirectories path = (.ok (), made)) (hkeeps : KeepsDirectories made t') :
    t'.createDirectories path = (.ok (), t') := by
  unfold createDirectories at h ⊢
  split at h
  · cases h
  · next hname =>
    split at h
    · cases h
    · next hlength =>
      rw [if_neg hname, if_neg hlength]
      exact createFrom_of_keeps h hkeeps

theorem extends_createDirectories (t : FileTree) (path : String) :
    Extends t (t.createDirectories path).2 := by
  unfold createDirectories
  split
  · exact fun _ _ h => h
  · split
    · exact fun _ _ h => h
    · exact extends_createFrom t [] (Path.steps path)

/-! ## Trees that differ in one file -/

/-- Whether nothing but the content of one file tells two trees apart. -/
structure SameBut (place : Place) (t t' : FileTree) : Prop where
  first : ∃ content, t.entry? place = some (.file content)
  second : ∃ content, t'.entry? place = some (.file content)
  elsewhere : ∀ other, other ≠ place → t'.entry? other = t.entry? other
  fate : t'.fate = t.fate

theorem sameBut_set (h : t.entry? place ≠ some .directory) (content content' : ByteArray) :
    SameBut place (t.set place (.file content)) (t.set place (.file content')) := by
  have hne := ne_nil_of_not_directory h
  refine ⟨⟨content, entry?_set_self hne _ _⟩, ⟨content', entry?_set_self hne _ _⟩, ?_, rfl⟩
  intro other hother
  rw [entry?_set_of_ne hother, entry?_set_of_ne hother]

namespace SameBut

variable (h : SameBut place t t')

include h

theorem ne_directory : t'.entry? place ≠ some .directory := by
  obtain ⟨content, hfile⟩ := h.second
  rw [hfile]
  exact nofun

theorem set (content : ByteArray) : SameBut place t (t'.set place (.file content)) := by
  have hne := ne_nil_of_not_directory h.ne_directory
  refine ⟨h.first, ⟨content, entry?_set_self hne _ _⟩, ?_, h.fate⟩
  intro other hother
  rw [entry?_set_of_ne hother, h.elsewhere other hother]

theorem keeps : KeepsDirectories t t' := by
  intro other hother
  have hne : other ≠ place := by
    rintro rfl
    obtain ⟨content, hfile⟩ := h.first
    rw [hfile] at hother
    cases hother
  rw [h.elsewhere other hne, hother]

theorem step_eq (other : Place) (part : String) : t'.step other part = t.step other part := by
  unfold step
  by_cases hsame : other = place
  · obtain ⟨content, hfile⟩ := h.first
    obtain ⟨content', hfile'⟩ := h.second
    rw [hsame, hfile, hfile']
  · rw [h.elsewhere other hsame]

theorem follow_eq (path : String) : t'.follow path = t.follow path := by
  have hstep : t'.step = t.step := funext fun other => funext fun part => h.step_eq other part
  unfold follow followParts
  rw [hstep]

theorem target_eq (path : String) : t'.target path = t.target path := by
  unfold target
  rw [h.follow_eq, h.fate]
  cases hfollow : t.follow path with
  | error fault => rfl
  | ok other =>
      simp only [bind, Except.bind]
      by_cases hsame : other = place
      · obtain ⟨content, hfile⟩ := h.first
        obtain ⟨content', hfile'⟩ := h.second
        rw [hsame, hfile, hfile']
      · rw [h.elsewhere other hsame]

/-- What other paths lead to is the same. -/
theorem find_eq (hother : t.follow path ≠ .ok place) : t'.find path = t.find path := by
  unfold find
  rw [h.follow_eq]
  cases hfollow : t.follow path with
  | error fault => rfl
  | ok other =>
      have hne : other ≠ place := by
        rintro rfl
        exact hother hfollow
      simp only [bind, Except.bind]
      rw [h.elsewhere other hne]

end SameBut

end Prospector.FileTree
