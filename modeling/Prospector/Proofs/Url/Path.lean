import Prospector.Proofs.Url.Roundtrip

/-!
# Paths of URLs that are read

Whatever the scheme, the path of a URL that is read, on its own or relative to another one, is ASCII
text, and only schemes that are not special have paths without structure. If such a URL belongs to a
server, its path begins with a slash or, for the schemes that wrap another URL, as a URL does.

## Main definitions

* `Url.IsRead` : the URLs that are read.
* `Url.HasSoundPath` : what reading makes sure of about the path of a URL.
* `Url.BeginsPlainly` : whether a path does not begin with an escape or with a mark.

## Main results

* `Url.IsRead.hasSoundPath` : what is read has a sound path.
* `Url.HasSoundPath.beginsPlainly` : the path of a URL that belongs to a server begins plainly.
-/

namespace Prospector.Url

/-- The URLs that are read, on their own or relative to one another. -/
inductive IsRead : Url → Prop where
  | alone {s : String} {u : Url} (h : ofText s = .ok u) : IsRead u
  | relative {base u : Url} {s : String} (hbase : IsRead base) (h : base.join s = .ok u) : IsRead u

/-- Whether a text is ASCII. -/
def IsAscii (s : String) : Prop :=
  ∀ c ∈ s.toList, c.toNat < 128

/-- Whether a path consists of segments in ASCII. -/
def Path.IsAsciiRooted (p : Path) : Prop :=
  ∃ segments, p = .rooted segments ∧ ∀ s ∈ segments, IsAscii s

/-- What reading makes sure of about the path of a URL. -/
structure HasSoundPath (u : Url) : Prop where
  ascii : IsAscii u.path.written
  rooted : isSpecial u.scheme = true → ∃ segments, u.path = .rooted segments

/-! ## Segments in ASCII -/

theorem isAscii_empty : IsAscii "" :=
  fun _ hc => absurd hc List.not_mem_nil

theorem isAscii_of_mem_nil : ∀ s ∈ ([] : List String), IsAscii s :=
  fun _ hs => absurd hs List.not_mem_nil

theorem isAscii_encoded {needs : Char → Bool} (hfree : Text.IsCodeFree needs) (cs : List Char) :
    IsAscii (encoded needs cs) :=
  fun c hc => (spared_encoded hfree cs c hc).1

theorem isAscii_rooted {segments : List String} :
    IsAscii (Path.rooted segments).written ↔ ∀ s ∈ segments, IsAscii s := by
  unfold IsAscii
  rw [Path.written, String.toList_join]
  constructor
  · intro h s hs c hc
    refine h c (List.mem_flatMap.2 ⟨_, List.mem_map_of_mem hs, ?_⟩)
    rw [String.toList_append]
    exact List.mem_append_right _ hc
  · intro h c hc
    obtain ⟨part, hpart, hc⟩ := List.mem_flatMap.1 hc
    obtain ⟨s, hs, rfl⟩ := List.mem_map.1 hpart
    rw [String.toList_append] at hc
    rcases List.mem_append.1 hc with hc | hc
    · rw [List.mem_singleton.1 (show c ∈ ['/'] from hc)]
      decide
    · exact h s hs c hc

theorem isAscii_of_mem_segmentsOf {special : Bool} {cs : List Char} :
    ∀ s ∈ segmentsOf special cs, IsAscii s := by
  intro s hs
  obtain ⟨piece, -, rfl⟩ := List.mem_map.1 hs
  exact isAscii_encoded isCodeFree_pathSpecial piece

section Resolve

variable {path added : List String}

theorem isAscii_close (hpath : ∀ s ∈ path, IsAscii s) (ends : Bool) :
    ∀ s ∈ (if ends then path ++ [""] else path), IsAscii s := by
  split
  · exact List.forall_mem_append.2 ⟨hpath, List.forall_mem_singleton.2 isAscii_empty⟩
  · exact hpath

theorem isAscii_dropLast (hpath : ∀ s ∈ path, IsAscii s) : ∀ s ∈ path.dropLast, IsAscii s :=
  fun s hs => hpath s (List.dropLast_subset _ hs)

theorem isAscii_of_mem_resolve (hpath : ∀ s ∈ path, IsAscii s) (hadded : ∀ s ∈ added, IsAscii s) :
    ∀ s ∈ resolve path added, IsAscii s := by
  induction added generalizing path with
  | nil => exact hpath
  | cons segment rest ih =>
      obtain ⟨hsegment, hrest⟩ := List.forall_mem_cons.1 hadded
      simp only [resolve]
      split
      · exact ih (isAscii_close (isAscii_dropLast hpath) _) hrest
      · split
        · exact ih (isAscii_close hpath _) hrest
        · have hone := List.forall_mem_singleton.2 hsegment
          exact ih (List.forall_mem_append.2 ⟨hpath, hone⟩) hrest

theorem isAscii_of_mem_resolveFile (hpath : ∀ s ∈ path, IsAscii s)
    (hadded : ∀ s ∈ added, IsAscii s) : ∀ s ∈ resolveFile path added, IsAscii s := by
  induction added generalizing path with
  | nil => exact hpath
  | cons segment rest ih =>
      obtain ⟨hsegment, hrest⟩ := List.forall_mem_cons.1 hadded
      simp only [resolveFile]
      split
      · refine ih (isAscii_close ?_ _) hrest
        split
        · split
          · exact hpath
          · exact isAscii_of_mem_nil
        · exact isAscii_dropLast hpath
      · split
        · exact ih (isAscii_close hpath _) hrest
        · split
          · refine ih (List.forall_mem_singleton.2 fun c hc => ?_) hrest
            rw [String.toList_ofList] at hc
            rcases List.mem_append.1 hc with hc | hc
            · exact hsegment c (List.mem_of_mem_take hc)
            · rw [List.mem_singleton.1 hc]
              decide
          · have hone := List.forall_mem_singleton.2 hsegment
            exact ih (List.forall_mem_append.2 ⟨hpath, hone⟩) hrest

end Resolve

/-! ## Paths in ASCII -/

theorem isAsciiRooted_rootedPath (special : Bool) (cs : List Char) :
    (rootedPath special cs).IsAsciiRooted :=
  ⟨_, rfl, isAscii_of_mem_resolve isAscii_of_mem_nil isAscii_of_mem_segmentsOf⟩

theorem isAsciiRooted_pathAfterAuthority (special : Bool) (cs : List Char) :
    (pathAfterAuthority special cs).IsAsciiRooted := by
  unfold pathAfterAuthority
  split
  · refine ⟨_, rfl, ?_⟩
    cases special with
    | false => exact isAscii_of_mem_nil
    | true => exact List.forall_mem_singleton.2 isAscii_empty
  · exact isAsciiRooted_rootedPath special _

theorem isAsciiRooted_filePath {base : List String} (hbase : ∀ s ∈ base, IsAscii s)
    (cs : List Char) : (filePath base cs).IsAsciiRooted := by
  refine ⟨_, rfl, ?_⟩
  split
  · exact List.forall_mem_singleton.2 isAscii_empty
  · intro s hs
    exact isAscii_of_mem_resolveFile hbase isAscii_of_mem_segmentsOf s
      ((List.dropWhile_suffix _).subset hs)

/-! ## Reading -/

theorem HasSoundPath.of_path {u : Url} (h : u.path.IsAsciiRooted) : u.HasSoundPath := by
  obtain ⟨segments, hpath, hsegments⟩ := h
  exact ⟨hpath ▸ isAscii_rooted.2 hsegments, fun _ => ⟨segments, hpath⟩⟩

theorem HasSoundPath.congr {u v : Url} (h : u.HasSoundPath) (hscheme : v.scheme = u.scheme)
    (hpath : v.path = u.path) : v.HasSoundPath :=
  ⟨hpath ▸ h.ascii, fun hspecial => hpath ▸ h.rooted (hscheme ▸ hspecial)⟩

theorem HasSoundPath.segments {u : Url} (h : u.HasSoundPath) {segments : List String}
    (hpath : u.path = .rooted segments) : ∀ s ∈ segments, IsAscii s :=
  isAscii_rooted.1 (hpath ▸ h.ascii)

theorem hasSoundPath_of_readAbsolute {scheme : String} {cs : List Char} {u : Url}
    (h : readAbsolute scheme cs = .ok u) : u.HasSoundPath := by
  obtain ⟨a, _, h⟩ := bind_eq_ok.1 h
  obtain rfl := Except.ok.inj h
  exact .of_path (isAsciiRooted_pathAfterAuthority _ _)

theorem hasSoundPath_of_readRelative {base u : Url} (hbase : base.HasSoundPath)
    {segments : List String} (hsegments : ∀ s ∈ segments, IsAscii s) {cs : List Char}
    (h : readRelative base segments cs = .ok u) : u.HasSoundPath := by
  simp only [readRelative] at h
  split at h
  · exact hasSoundPath_of_readAbsolute h
  · split at h
    · split at h
      · obtain rfl := Except.ok.inj h
        exact hbase.congr rfl rfl
      · obtain rfl := Except.ok.inj h
        exact hbase.congr rfl rfl
    · split at h
      · obtain rfl := Except.ok.inj h
        exact .of_path (isAsciiRooted_rootedPath _ _)
      · obtain rfl := Except.ok.inj h
        exact .of_path ⟨_, rfl,
          isAscii_of_mem_resolve (isAscii_dropLast hsegments) isAscii_of_mem_segmentsOf⟩

section File

variable {base : Option Url} (hbase : ∀ b, base = some b → b.HasSoundPath)
include hbase

theorem hasSoundPath_of_readSingle {segments : List String} (hsegments : ∀ s ∈ segments, IsAscii s)
    {host : Host} {cs : List Char} {u : Url}
    (h : readFile.readSingle base segments host cs = .ok u) : u.HasSoundPath := by
  unfold readFile.readSingle at h
  simp only at h
  split at h
  · split at h
    · next b =>
      split at h
      · obtain rfl := Except.ok.inj h
        exact (hbase b rfl).congr rfl rfl
      · obtain rfl := Except.ok.inj h
        exact (hbase b rfl).congr rfl rfl
    · obtain rfl := Except.ok.inj h
      exact .of_path ⟨_, rfl, List.forall_mem_singleton.2 isAscii_empty⟩
  · split at h
    · obtain rfl := Except.ok.inj h
      refine .of_path (isAsciiRooted_filePath ?_ _)
      split
      · exact isAscii_of_mem_nil
      · exact fun s hs => hsegments s (List.mem_of_mem_take (List.mem_of_mem_filter hs))
    · split at h
      · obtain rfl := Except.ok.inj h
        exact .of_path (isAsciiRooted_filePath (isAscii_dropLast hsegments) _)
      · obtain rfl := Except.ok.inj h
        exact .of_path (isAsciiRooted_filePath isAscii_of_mem_nil _)

theorem hasSoundPath_of_readFile {cs : List Char} {u : Url} (h : readFile base cs = .ok u) :
    u.HasSoundPath := by
  unfold readFile at h
  simp only at h
  split at h
  · split at h
    · split at h
      · obtain rfl := Except.ok.inj h
        exact .of_path (isAsciiRooted_filePath isAscii_of_mem_nil _)
      · obtain ⟨host, _, h⟩ := bind_eq_ok.1 h
        obtain rfl := Except.ok.inj h
        exact .of_path (isAsciiRooted_filePath isAscii_of_mem_nil _)
    · refine hasSoundPath_of_readSingle hbase ?_ h
      split
      · exact (hbase _ rfl).segments rfl
      · exact isAscii_of_mem_nil
  · refine hasSoundPath_of_readSingle hbase ?_ h
    split
    · exact (hbase _ rfl).segments rfl
    · exact isAscii_of_mem_nil

end File

theorem isCodeFree_isControl : Text.IsCodeFree isControl := by
  refine ⟨by decide, by decide⟩

theorem hasSoundPath_of_readPlain {scheme : String} (hscheme : isSpecial scheme = false)
    {cs : List Char} {u : Url} (h : readPlain scheme cs = .ok u) : u.HasSoundPath := by
  unfold readPlain at h
  split at h
  · exact hasSoundPath_of_readAbsolute h
  · obtain rfl := Except.ok.inj h
    split
    · exact .of_path (isAsciiRooted_rootedPath _ _)
    · refine ⟨isAscii_encoded isCodeFree_isControl _, fun hspecial => ?_⟩
      exact absurd (hscheme.symm.trans hspecial) (by decide)

theorem hasSoundPath_of_readBehindScheme {base : Option Url}
    (hbase : ∀ b, base = some b → b.HasSoundPath) {scheme : String} {cs : List Char} {u : Url}
    (h : readBehindScheme base scheme cs = .ok u) : u.HasSoundPath := by
  unfold readBehindScheme at h
  split at h
  · exact hasSoundPath_of_readFile (fun b hb => hbase b (Option.filter_eq_some_iff.1 hb).1) h
  · split at h
    · simp only at h
      split at h
      · next b =>
        split at h
        · refine hasSoundPath_of_readRelative (hbase b rfl) ?_ h
          unfold segments?
          split
          · next segments hpath => exact (hbase b rfl).segments hpath
          · exact isAscii_of_mem_nil
        · exact hasSoundPath_of_readAbsolute h
      · exact hasSoundPath_of_readAbsolute h
    · next hspecial => exact hasSoundPath_of_readPlain (Bool.eq_false_iff.2 hspecial) h

theorem hasSoundPath_of_read {base : Option Url} (hbase : ∀ b, base = some b → b.HasSoundPath)
    {s : String} {u : Url} (h : read base s = .ok u) : u.HasSoundPath := by
  simp only [read] at h
  split at h
  · exact hasSoundPath_of_readBehindScheme hbase h
  · split at h
    · cases h
    · next b =>
      have hb := hbase b rfl
      split at h
      · next segments hsegments =>
        split at h
        · exact hasSoundPath_of_readFile hbase h
        · refine hasSoundPath_of_readRelative hb ?_ h
          unfold segments? at hsegments
          split at hsegments
          · next hpath => exact Option.some.inj hsegments ▸ hb.segments hpath
          · cases hsegments
      · split at h
        · obtain rfl := Except.ok.inj h
          exact hb.congr rfl rfl
        · cases h

/-- What is read has a sound path. -/
theorem IsRead.hasSoundPath {u : Url} (h : u.IsRead) : u.HasSoundPath := by
  induction h with
  | alone h => exact hasSoundPath_of_read (fun b hb => by cases hb) h
  | relative _ h ih =>
      refine hasSoundPath_of_read (fun b hb => ?_) h
      exact Option.some.inj hb ▸ ih

/-! ## The start of a path -/

/-- Whether the first character of a path, if it has one, begins no escape, is no sigma and is not
left out where the form of a sigma behind it is decided. -/
def BeginsPlainly (cs : List Char) : Prop :=
  ∀ c ∈ cs.head?, c ≠ '%' ∧ c ≠ 'Σ' ∧ Text.isCaseIgnorable c = false

theorem beginsPlainly_of_ofText {s : String} {u : Url} (h : ofText s = .ok u) :
    BeginsPlainly s.toList := by
  intro c hc
  obtain ⟨rest, hs⟩ := List.head?_eq_some_iff.1 hc
  have hplain : c.toNat < 128 → (c.toNat ≤ 0x20 ∨ beginsScheme c = true) →
      c ≠ '%' ∧ c ≠ 'Σ' ∧ Text.isCaseIgnorable c = false :=
    Text.forall_ascii (P := fun c => (c.toNat ≤ 0x20 ∨ beginsScheme c = true) →
      c ≠ '%' ∧ c ≠ 'Σ' ∧ Text.isCaseIgnorable c = false) (by decide)
  -- blanks at the start do not count, and what counts begins with a scheme
  by_cases hblank : c.toNat ≤ 0x20
  · exact hplain (by omega) (.inl hblank)
  · have hvisible : ∀ d ∈ [c], 0x20 < d.toNat := List.forall_mem_singleton.2 (Nat.not_le.1 hblank)
    obtain ⟨counted, hcleaned, -⟩ := cleaned_append hs (List.cons_ne_nil c []) hvisible
    simp only [ofText, read, hcleaned, List.singleton_append] at h
    split at h
    · next hsplit =>
      have hbegins : beginsScheme c = true := by
        unfold beginsScheme
        unfold splitScheme at hsplit
        split at hsplit
        · cases hsplit
        · next first tail hcons =>
          obtain ⟨rfl, -⟩ := List.cons.inj hcons
          split at hsplit
          · next hfirst => exact hfirst
          · cases hsplit
      exact hplain (lt_of_isSchemeChar (Bool.and_eq_true_iff.1 hbegins).1) (.inr hbegins)
    · cases h

/-- If a URL belongs to a server, its path begins with a slash or as a URL does. -/
theorem HasSoundPath.beginsPlainly {u root : Url} (h : u.HasSoundPath)
    (hroot : u.root? = some root) : BeginsPlainly u.path.written.toList := by
  rw [root?, rootWithin] at hroot
  split at hroot
  · split at hroot
    · next hinner => exact beginsPlainly_of_ofText hinner
    · cases hroot
  · split at hroot
    · next hspecial =>
      obtain ⟨segments, hpath⟩ := h.rooted (Bool.and_eq_true_iff.1 hspecial).2
      cases segments with
      | nil =>
          rw [hpath]
          intro c hc
          cases hc
      | cons s rest =>
          rw [hpath, toList_written_path (List.cons_ne_nil s rest)]
          intro c hc
          obtain rfl := Option.some.inj hc
          decide
    · cases hroot

end Prospector.Url
