import Prospector.CommandLine.Program
import Prospector.Proofs.Catalog.Roundtrip
import Prospector.Proofs.Crawl.Confluence
import Prospector.Proofs.Settings.Loading

/-!
# The results file after a run

Each source that is crawled reads the results file, merges its products into the catalog and writes
the file again. What one source wrote the next one reads back, so in the end the catalog is the
first one with an update for each source. Updates of different names do not touch each other, and
the names of the sources of loaded settings differ, so of each source the products of its crawl
remain, and all other listings are as they were.

## Main definitions

* `Catalog.updateAll` : a catalog with the products of several crawls.
* `Source.found` : what the crawl of a source finds.

## Main results

* `Catalog.find?_updateAll`, `Catalog.getElem?_updateAll`, `Catalog.names_updateAll` : the listings
  of such a catalog.
* `Settings.harvest_of_isComplete` : the file and the harvests of a run that is not cut short.
* `Settings.harvest_of_load` : the products in the file after a run over sources of loaded settings.
-/

namespace Prospector

namespace Catalog

/-! ## Several updates -/

/-- The catalog with the products of several crawls, one update after the other. -/
def updateAll (c : Catalog) (found : List (String × Findings)) : Catalog :=
  found.foldl (fun c m => c.update (.ofFindings m.1 m.2)) c

theorem updateAll_eq_merge (c : Catalog) (found : List (String × Findings)) :
    c.updateAll found = c.merge (found.map fun m => .ofFindings m.1 m.2) := by
  rw [updateAll, merge, List.foldl_map]

/-- After updates of different names the first listing of each name has the products of its
update. -/
theorem find?_updateAll {found : List (String × Findings)} (hnodup : (found.map Prod.fst).Nodup)
    (c : Catalog) {m : String × Findings} (hm : m ∈ found) :
    ∃ l, (c.updateAll found).find? m.1 = some l ∧ l.products = m.2.products := by
  have hproducts := c.products_find?_merge (found.map fun m => .ofFindings m.1 m.2) m.1
  rw [← updateAll_eq_merge] at hproducts
  cases hlast : ((found.map fun m => Listing.ofFindings m.1 m.2).filter
      fun e => e.name == m.1).getLast? with
  | none =>
      rw [List.getLast?_eq_none_iff, List.filter_eq_nil_iff] at hlast
      exact absurd (beq_self_eq_true m.1) (hlast _ (List.mem_map_of_mem hm))
  | some e =>
      obtain ⟨he, hname⟩ := List.mem_filter.1 (List.mem_of_getLast? hlast)
      obtain ⟨m', hm', rfl⟩ := List.mem_map.1 he
      obtain rfl := List.inj_on_of_nodup_map hnodup hm' hm (by simpa using hname)
      rw [hlast, Option.some_or, Option.map_some, Option.map_eq_some_iff] at hproducts
      exact hproducts

/-- A listing that is not the first one of the name of any of the updates stays as it is. -/
theorem getElem?_updateAll {found : List (String × Findings)} {c : Catalog} {l : Listing} {i : Nat}
    (h : c.listings[i]? = some l)
    (hother : ∀ m ∈ found, c.listings.findIdx? (fun l => l.name == m.1) ≠ some i) :
    (c.updateAll found).listings[i]? = some l := by
  rw [updateAll_eq_merge, getElem?_merge _ h]
  by_cases hfirst : c.listings.findIdx? (fun old => old.name == l.name) = some i
  · have hnone : (found.map fun m => Listing.ofFindings m.1 m.2).filter
        (fun e => e.name == l.name) = [] := by
      rw [List.filter_eq_nil_iff, List.forall_mem_map]
      intro m hm hname
      have hsame : m.1 = l.name := by simpa using hname
      rw [← hsame] at hfirst
      exact hother m hm hfirst
    simp [hnone]
  · rw [if_neg hfirst]

/-- After updates of different names those that were not there are at the end, in the order of the
updates. -/
theorem names_updateAll {found : List (String × Findings)} (hnodup : (found.map Prod.fst).Nodup)
    (c : Catalog) :
    (c.updateAll found).names =
      c.names ++ (found.map Prod.fst).filter fun name => !c.names.contains name := by
  have hfound : (found.map fun m => Listing.ofFindings m.1 m.2).map Listing.name =
      found.map Prod.fst := by simp
  rw [updateAll_eq_merge, names_merge, hfound, eraseDups_of_nodup (hnodup.filter _)]

end Catalog

/-! ## Crawls of sources -/

namespace Source

variable {w : Web} {order : Session.Order} {pace : Pace} {s : Source} {session : Session}

/-- A crawl of a source starts at its address and goes by its rule. -/
theorem exists_reached_of_crawl {interrupted : Bool}
    (h : s.crawl w order pace = .ok (interrupted, session)) :
    ∃ rule start, s.rule = some rule ∧
      Session.Reached w.site rule start pace.limits session := by
  obtain ⟨⟨rule, first⟩, hsession, hcrawl⟩ := bind_eq_ok.1 h
  obtain rfl : session = _ := (Prod.mk.inj (Except.ok.inj hcrawl)).2.symm
  unfold Source.session at hsession
  split at hsession
  · cases hsession
  · next found hrule =>
    split at hsession
    · cases hsession
    · next began hbegan =>
      obtain ⟨rfl, rfl⟩ := Prod.mk.inj (Except.ok.inj hsession)
      obtain ⟨start, -, hnew⟩ := bind_eq_ok.1 hbegan
      obtain rfl := Except.ok.inj hnew
      exact ⟨found, start, hrule, Session.Reached.new.runUntil order _⟩

/-- All that a crawl finds out about pages are products, in ascending order of their addresses. -/
theorem products_of_crawl {interrupted : Bool}
    (h : s.crawl w order pace = .ok (interrupted, session)) :
    session.findings.products =
        session.findings.byUrl.map (fun m => { link := m.1, kind := m.2.kind, text := m.2.text }) ∧
      session.findings.products.Pairwise fun p q => p.link < q.link := by
  obtain ⟨rule, start, -, hreached⟩ := exists_reached_of_crawl h
  have hall : (session.findings.byUrl.filter fun m => m.2.isProduct) = session.findings.byUrl := by
    rw [List.filter_eq_self]
    intro m hm
    obtain ⟨-, -, c, -, -, hc⟩ := hreached.findings m.1 m.2 hm
    rw [hc]
    rfl
  rw [Findings.products, hall, List.pairwise_map]
  exact ⟨rfl, hreached.sorted_findings⟩

/-- What the crawl of a source finds. -/
def found (w : Web) (order : Session.Order) (pace : Pace) (s : Source) : Findings :=
  match s.crawl w order pace with
  | .ok (_, session) => session.findings
  | .error _ => {}

/-- The harvest of a source whose crawl came to its end and whose products were saved. -/
structure IsHarvest (w : Web) (order : Session.Order) (pace : Pace) (s : Source) (h : Harvest)
    (session : Session) : Prop where
  crawl : s.crawl w order pace = .ok (false, session)
  harvest : h =
    { source := s.name
      requests := session.requests w
      gain := .ok
        { report := session.report
          interrupted := false
          saved := .ok session.report.statistics.classified } }

theorem IsHarvest.isComplete {h : Harvest} (hr : s.IsHarvest w order pace h session) :
    h.isComplete = true := by
  rw [hr.harvest]
  rfl

/-- The harvest of a source is complete if its crawl comes to its end and its products can be
saved. -/
theorem isHarvest_of_save {path : String} {t : FileTree} {c : Catalog}
    (hcrawl : s.crawl w order pace = .ok (false, session)) (hload : Catalog.load t path = .ok c)
    (hsave : (Catalog.save t path (c.update (.ofFindings s.name session.findings))).1 = .ok ()) :
    s.IsHarvest w order pace (s.harvest w order pace path t).1 session ∧
      (s.harvest w order pace path t).2 =
        (Catalog.save t path (c.update (.ofFindings s.name session.findings))).2 := by
  have hcount : session.findings.products.length = session.report.statistics.classified := by
    rw [(products_of_crawl hcrawl).1, List.length_map]
    rfl
  obtain ⟨fault, hfault, -⟩ | ⟨c', hload', htree, hresult⟩ :=
    Catalog.saveFindings_cases t path s.name session.findings
  · exact nomatch hload.symm.trans hfault
  · obtain rfl : c = c' := Except.ok.inj (hload.symm.trans hload')
    simp only [harvest, hcrawl]
    refine ⟨⟨hcrawl, ?_⟩, htree⟩
    rw [hresult, hsave, ← hcount]
    rfl

/-- A complete harvest has saved the products of a crawl that came to its end. -/
theorem exists_isHarvest {path : String} {t : FileTree}
    (h : (s.harvest w order pace path t).1.isComplete = true) :
    ∃ session, s.IsHarvest w order pace (s.harvest w order pace path t).1 session ∧
      ∃ c, Catalog.load t path = .ok c ∧
        (Catalog.save t path (c.update (.ofFindings s.name (s.found w order pace)))).1 = .ok () ∧
        (s.harvest w order pace path t).2 =
          (Catalog.save t path (c.update (.ofFindings s.name (s.found w order pace)))).2 := by
  cases hcrawl : s.crawl w order pace with
  | error fault =>
      simp only [harvest, hcrawl] at h
      exact nomatch h
  | ok result =>
      obtain ⟨interrupted, session⟩ := result
      have hfound : s.found w order pace = session.findings := by rw [found, hcrawl]
      obtain ⟨rfl, hsaved⟩ : interrupted = false ∧
          (Catalog.saveFindings t path s.name session.findings).1.isOk = true := by
        simpa [harvest, hcrawl, Harvest.isComplete] using h
      rw [hfound]
      obtain ⟨fault, -, hfailed⟩ | ⟨c, hload, -, hresult⟩ :=
        Catalog.saveFindings_cases t path s.name session.findings
      · rw [hfailed] at hsaved
        exact nomatch hsaved
      · cases hsave : (Catalog.save t path (c.update (.ofFindings s.name session.findings))).1 with
        | error fault =>
            rw [hresult, hsave] at hsaved
            exact nomatch hsaved
        | ok =>
            obtain ⟨hharvest, htree⟩ := isHarvest_of_save hcrawl hload hsave
            exact ⟨session, hharvest, c, hload, hsave, htree⟩

end Source

/-! ## Runs -/

namespace Settings

/-- After a harvest that is good enough the run goes on. -/
theorem harvest_cons {goesOn : Harvest → Bool} (s : Settings) (w : Web)
    (order : Source → Session.Order) {t : FileTree} {source : Source} (rest : List Source)
    (h : goesOn (source.harvest w (order source) s.pace s.resultsPath t).1 = true) :
    s.harvest w order goesOn t (source :: rest) =
      ((source.harvest w (order source) s.pace s.resultsPath t).1 ::
          (s.harvest w order goesOn
            (source.harvest w (order source) s.pace s.resultsPath t).2 rest).1,
        (s.harvest w order goesOn
          (source.harvest w (order source) s.pace s.resultsPath t).2 rest).2) := by
  simp only [harvest, h, if_true]

theorem head_mem_harvest {goesOn : Harvest → Bool} (s : Settings) (w : Web)
    (order : Source → Session.Order) (t : FileTree) (source : Source) (rest : List Source) :
    (source.harvest w (order source) s.pace s.resultsPath t).1 ∈
      (s.harvest w order goesOn t (source :: rest)).1 := by
  simp only [harvest]
  split <;> exact List.mem_cons_self

/-- A run of which all harvests are complete has crawled every source, and in the end the file holds
the first catalog with one update for each source. -/
theorem harvest_of_isComplete (s : Settings) (w : Web) (order : Source → Session.Order)
    {selected : List Source} {t : FileTree} {c : Catalog}
    (hload : Catalog.load t s.resultsPath = .ok c) (hexact : c.IsExact)
    (h : ∀ r ∈ (s.harvest w order Harvest.isComplete t selected).1, r.isComplete = true) :
    let final := s.harvest w order Harvest.isComplete t selected
    List.Forall₂ (fun source r => ∃ session, source.IsHarvest w (order source) s.pace r session)
        selected final.1 ∧
      Catalog.load final.2 s.resultsPath = .ok (c.updateAll (selected.map fun source =>
        (source.name, source.found w (order source) s.pace))) := by
  induction selected generalizing t c with
  | nil => exact ⟨.nil, hload⟩
  | cons source rest ih =>
      have hfirst := h _ (s.head_mem_harvest w order t source rest)
      rw [s.harvest_cons w order rest hfirst] at h ⊢
      obtain ⟨session, hr, c', hload', hsave, htree⟩ := Source.exists_isHarvest hfirst
      obtain rfl : c = c' := Except.ok.inj (hload.symm.trans hload')
      have hexact' := hexact.update source.name (source.found w (order source) s.pace)
      -- the next source reads back what this one wrote
      have hagain := (Catalog.load_save (.updated _ _ (.loaded hload)) hexact' hsave).1
      rw [← htree] at hagain
      obtain ⟨hharvests, hfinal⟩ := ih hagain hexact' fun r hr => h r (List.mem_cons_of_mem _ hr)
      exact ⟨.cons ⟨session, hr⟩ hharvests, hfinal⟩

/-- Let settings be loaded, some of them perhaps replaced, and let some of their sources be crawled
in their order, on any web, the visits of each crawl ending in an order of its own. Let the results
file hold a catalog without floating-point numbers or none at all, and let the run succeed: no crawl
is interrupted, and all products are saved. Then the file can be loaded in the end. The first
listing of each source that was crawled holds what its crawl found, in ascending order of the
addresses, and the number that was saved is that of the report. Every other listing that was there
stays as it was at its place, and listings of new names stand behind them, one for each, in the
order of the crawls. -/
theorem harvest_of_load {files : FileTree} {config : String} {loaded : Settings}
    {warnings : List Warning} (hsettings : load files config = .ok (loaded, warnings))
    (o : Overrides) {selected : List Source} (hselected : selected.Sublist loaded.sources)
    (w : Web) (order : Source → Session.Order) {t : FileTree} {c : Catalog}
    (hload : Catalog.load t (loaded.override o).resultsPath = .ok c) (hexact : c.IsExact)
    (hcomplete : ∀ r ∈ ((loaded.override o).harvest w order Harvest.isComplete t selected).1,
      r.isComplete = true) :
    let s := loaded.override o
    let final := s.harvest w order Harvest.isComplete t selected
    ∃ c', Catalog.load final.2 s.resultsPath = .ok c' ∧
      List.Forall₂ (fun source r => ∃ session, source.IsHarvest w (order source) s.pace r session ∧
        ∃ l, c'.find? source.name = some l ∧
          l.products = session.findings.byUrl.map (fun m =>
            { link := m.1, kind := m.2.kind, text := m.2.text }) ∧
          l.products.Pairwise fun p q => p.link < q.link) selected final.1 ∧
      (∀ i l, c.listings[i]? = some l →
        (∀ source ∈ selected, c.listings.findIdx? (fun l => l.name == source.name) ≠ some i) →
        c'.listings[i]? = some l) ∧
      c'.names = c.names ++
        (selected.map Source.name).filter fun name => !c.names.contains name := by
  intro s final
  obtain ⟨hharvests, hfinal⟩ := s.harvest_of_isComplete w order hload hexact hcomplete
  generalize hfound : (selected.map fun source =>
    (source.name, source.found w (order source) s.pace)) = found at hfinal
  have hnames : found.map Prod.fst = selected.map Source.name := by
    rw [← hfound, List.map_map]
    rfl
  -- names of sources differ, so what one of them wrote no other one replaces
  have hnodup : (found.map Prod.fst).Nodup := by
    rw [hnames]
    exact (valid_of_load hsettings).names.sublist (hselected.map Source.name)
  refine ⟨c.updateAll found, hfinal, ?_, ?_, ?_⟩
  · rw [List.forall₂_iff_zip] at hharvests ⊢
    refine ⟨hharvests.1, fun {source r} hmem => ?_⟩
    obtain ⟨session, hr⟩ := hharvests.2 hmem
    obtain ⟨hproducts, hsorted⟩ := Source.products_of_crawl hr.crawl
    have hm : (source.name, session.findings) ∈ found := by
      rw [← hfound]
      refine List.mem_map.2 ⟨source, (List.of_mem_zip hmem).1, ?_⟩
      rw [Source.found, hr.crawl]
    obtain ⟨l, hl, hsame⟩ := Catalog.find?_updateAll hnodup c hm
    refine ⟨session, hr, l, hl, hsame.trans hproducts, ?_⟩
    rwa [hsame]
  · intro i l hl hother
    refine Catalog.getElem?_updateAll hl fun m hm => ?_
    rw [← hfound] at hm
    obtain ⟨source, hsource, rfl⟩ := List.mem_map.1 hm
    exact hother source hsource
  · rw [← hnames]
    exact Catalog.names_updateAll hnodup c

end Settings

/-! ## Leaflets -/

/-- A web in which every page holds one paragraph. -/
def leaflets : Web where
  accepts := fun _ => true
  reply := fun _ => { body := Text.utf8 "<p>" }

theorem awaitsInVain_leaflets (order : Session.Order) (s : Session) :
    s.awaitsInVain leaflets order = false := by
  have hanswers : ∀ url, leaflets.isSilent url = false := by
    intro url
    unfold Web.isSilent Web.fetch
    cases Url.ofText url with
    | error fault => rfl
    | ok u =>
        show ((leaflets.fetchFrom Web.redirectLimit (Web.credentials? u) u).outcome == .silent) =
          false
        rw [Web.fetchFrom]
        cases Web.isRequestable u <;> rfl
  unfold Session.awaitsInVain
  split
  · exact hanswers _
  · rfl

namespace Source

/-- The crawl of a source after so many moves, if it has come to its end. -/
def finished? (n : Nat) (w : Web) (order : Session.Order) (pace : Pace) (s : Source) :
    Option Session :=
  match s.session pace with
  | .ok (rule, first) =>
    some (Session.course w.site rule order n first) |>.filter Session.isFinished
  | .error _ => none

/-- The crawl of a source that never waits in vain can be computed move by move. -/
theorem crawl_eq_of_finished {n : Nat} {w : Web} {order : Session.Order} {pace : Pace} {s : Source}
    {session : Session} (hw : ∀ s : Session, s.awaitsInVain w order = false)
    (h : s.finished? n w order pace = some session) :
    s.crawl w order pace = .ok (false, session) := by
  unfold finished? at h
  split at h
  · next rule first hsession =>
    obtain ⟨hcourse, hfinished⟩ := Option.filter_eq_some_iff.1 h
    obtain rfl := Option.some.inj hcourse
    simp only [crawl, hsession, bind, Except.bind, Session.runUntil_eq_course hw n hfinished]
  · cases h

end Source

/-- A results file that lists two sources. -/
def stock : FileTree :=
  Catalog.resultsFile ("\x7b\"sources\":[\x7b\"name\":\"old\"\x7d,\x7b\"name\":\"ink\"," ++
    "\"product_links\":[\x7b\"link\":\"x\"\x7d]\x7d]\x7d")

/-- The catalog of that file. -/
def stockCatalog : Catalog :=
  { listings := [{ name := "old" }, { name := "ink", products := [{ link := "x" }] }] }

theorem load_stock : Catalog.load stock "r.json" = .ok stockCatalog := by
  rfl

theorem isExact_stockCatalog : stockCatalog.IsExact := by
  refine ⟨fun m hm => absurd hm List.not_mem_nil, List.forall_mem_cons.2 ⟨?_, ?_⟩⟩
  · exact fun m hm => absurd hm List.not_mem_nil
  · exact List.forall_mem_singleton.2 fun m hm => absurd hm List.not_mem_nil

namespace Settings

/-- What the sources of the shops find among the leaflets. -/
theorem exists_load_shops :
    ∃ s warnings tea ink, load shops "scout.toml" = .ok (s, warnings) ∧ s.sources = [tea, ink] ∧
      tea.name = "tea" ∧ ink.name = "ink" ∧
      (∃ session, tea.crawl leaflets Session.inTurn s.pace = .ok (false, session) ∧
        session.findings = ⟨[("http://[::1]/", ⟨true, some "tea", none⟩)]⟩) ∧
      ∃ session, ink.crawl leaflets Session.inTurn s.pace = .ok (false, session) ∧
        session.findings = {} := by
  have hloaded : ((load shops "scout.toml").toOption.map fun r => r.1.sources.map fun source =>
      (source.name, (source.finished? 4 leaflets Session.inTurn r.1.pace).map Session.findings)) =
        some [("tea", some ⟨[("http://[::1]/", ⟨true, some "tea", none⟩)]⟩), ("ink", some {})] := by
    decide +kernel
  obtain ⟨⟨s, warnings⟩, hload, hfound⟩ := exists_of_map_toOption hloaded
  obtain ⟨tea, rest, hsources, htea, hrest⟩ := List.map_eq_cons_iff.1 hfound
  obtain ⟨ink, rest, rfl, hink, hrest⟩ := List.map_eq_cons_iff.1 hrest
  obtain rfl := List.map_eq_nil_iff.1 hrest
  obtain ⟨hteaName, hteaCrawl⟩ := Prod.mk.inj htea
  obtain ⟨hinkName, hinkCrawl⟩ := Prod.mk.inj hink
  obtain ⟨teaSession, hteaFinished, hteaFindings⟩ := Option.map_eq_some_iff.1 hteaCrawl
  obtain ⟨inkSession, hinkFinished, hinkFindings⟩ := Option.map_eq_some_iff.1 hinkCrawl
  have hanswers := awaitsInVain_leaflets Session.inTurn
  exact ⟨s, warnings, tea, ink, hload, hsources, hteaName, hinkName,
    ⟨teaSession, Source.crawl_eq_of_finished hanswers hteaFinished, hteaFindings⟩,
    inkSession, Source.crawl_eq_of_finished hanswers hinkFinished, hinkFindings⟩

/-- Both shops are crawled and the file holds their products: those of `ink` are replaced by none,
those of `tea` come to the end. -/
theorem harvest_of_load_shops :
    ∃ s warnings, load shops "scout.toml" = .ok (s, warnings) ∧
      ∃ c', Catalog.load (((s.override { resultsPath := some "r.json" }).harvest leaflets
          (fun _ => Session.inTurn) Harvest.isComplete stock s.sources).2) "r.json" = .ok c' ∧
        c'.names = ["old", "ink", "tea"] ∧ c'.listings[0]? = some { name := "old" } ∧
        (∃ l, c'.find? "tea" = some l ∧ l.products = [⟨"http://[::1]/", some "tea", none⟩]) ∧
        ∃ l, c'.find? "ink" = some l ∧ l.products = [] := by
  obtain ⟨s, warnings, tea, ink, hload, hsources, htea, hink, ⟨teaSession, hteaCrawl, hteaFound⟩,
    inkSession, hinkCrawl, hinkFound⟩ := exists_load_shops
  have hsaveTea : (Catalog.save stock "r.json"
      (stockCatalog.update (.ofFindings tea.name teaSession.findings))).1 = .ok () := by
    rw [htea, hteaFound]
    decide +kernel
  have hsaveInk : (Catalog.save (Catalog.save stock "r.json"
      (stockCatalog.update (.ofFindings tea.name teaSession.findings))).2 "r.json"
        ((stockCatalog.update (.ofFindings tea.name teaSession.findings)).update
          (.ofFindings ink.name inkSession.findings))).1 = .ok () := by
    rw [htea, hteaFound, hink, hinkFound]
    decide +kernel
  have hloadTea := (Catalog.load_save (.updated _ _ (.loaded load_stock))
    (isExact_stockCatalog.update _ _) hsaveTea).1
  obtain ⟨hteaHarvest, hteaFiles⟩ := Source.isHarvest_of_save hteaCrawl load_stock hsaveTea
  rw [← hteaFiles] at hloadTea hsaveInk
  obtain ⟨hinkHarvest, -⟩ := Source.isHarvest_of_save hinkCrawl hloadTea hsaveInk
  have hcomplete : ∀ r ∈ ((s.override { resultsPath := some "r.json" }).harvest leaflets
      (fun _ => Session.inTurn) Harvest.isComplete stock s.sources).1, r.isComplete = true := by
    rw [hsources, harvest_cons _ _ _ _ hteaHarvest.isComplete,
      harvest_cons _ _ _ _ hinkHarvest.isComplete]
    exact List.forall_mem_cons.2 ⟨hteaHarvest.isComplete,
      List.forall_mem_singleton.2 hinkHarvest.isComplete⟩
  obtain ⟨c', hfinal, hharvests, hkept, hnames⟩ := harvest_of_load hload
    { resultsPath := some "r.json" } (List.Sublist.refl s.sources) leaflets
    (fun _ => Session.inTurn) load_stock isExact_stockCatalog hcomplete
  have hproducts : ∀ source ∈ s.sources, ∀ session,
      source.crawl leaflets Session.inTurn s.pace = .ok (false, session) →
      ∃ l, c'.find? source.name = some l ∧ l.products = session.findings.byUrl.map fun m =>
        { link := m.1, kind := m.2.kind, text := m.2.text } := by
    intro source hsource session hcrawl
    obtain ⟨r, -, session', hr, l, hl, hlinks, -⟩ := Text.exists_of_forall₂ hharvests hsource
    obtain ⟨-, rfl⟩ := Prod.mk.inj (Except.ok.inj (hcrawl.symm.trans hr.crawl))
    exact ⟨l, hl, hlinks⟩
  refine ⟨s, warnings, hload, c', hfinal, ?_, ?_, ?_, ?_⟩
  · rw [hnames, hsources, List.map_cons, List.map_cons, htea, hink]
    decide
  · refine hkept 0 _ rfl ?_
    rw [hsources]
    refine List.forall_mem_cons.2 ⟨?_, List.forall_mem_singleton.2 ?_⟩
    · rw [htea]
      decide
    · rw [hink]
      decide
  · have htea' := hproducts tea (hsources ▸ List.mem_cons_self) teaSession hteaCrawl
    rwa [htea, hteaFound] at htea'
  · have hink' := hproducts ink (by simp [hsources]) inkSession hinkCrawl
    rwa [hink, hinkFound] at hink'

end Settings

end Prospector
