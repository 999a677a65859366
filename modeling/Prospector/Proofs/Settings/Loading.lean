import Prospector.Crawl.Harvest
import Prospector.Proofs.Json.Members
import Prospector.Proofs.Settings.Validation
import Prospector.Proofs.Text.Parts
import Prospector.Settings.Load

/-!
# Loaded settings

What is known of settings once they are loaded. A value of a TOML text is never `null`, so a member
that a source may lack is there or it is not, and a source gives its rule in one of two ways: in
place or in a file of its own. The rule is that of the given value, because a source is not changed
in any other way, and since the settings are valid there is a rule and an address to start from. So
crawls of loaded settings do begin, also if some of the settings are replaced.

## Main definitions

* `Source.Given` : how a source follows from its table.

## Main results

* `Settings.valid_of_load` : loaded settings are valid.
* `Source.Valid.exists_crawl` : the crawl of a valid source begins at its address.
* `Settings.crawlable_of_load` : sources of loaded settings have their rules and can be crawled.
-/

namespace Prospector

/-! ## Values of a TOML text -/

namespace Toml

theorem itemsToJson_eq (items : List Toml) : itemsToJson items = items.map toJson := by
  induction items with
  | nil => rfl
  | cons v vs ih => rw [itemsToJson, ih, List.map_cons]

theorem membersToJson_eq (members : List (String × Toml)) :
    membersToJson members = members.map fun m => (m.1, m.2.toJson) := by
  induction members with
  | nil => rfl
  | cons m ms ih => rw [membersToJson, ih, List.map_cons]

theorem exists_table_of_read? {text : String} {v : Toml} (h : read? text = some v) :
    ∃ members, v = .table members := by
  obtain ⟨members, -, rfl⟩ := Option.map_eq_some_iff.1 h
  exact ⟨_, rfl⟩

theorem toJson_ne_null (v : Toml) : v.toJson ≠ .null := by
  cases v <;> exact nofun

theorem eq_array_of_toJson {v : Toml} {items : List Json} (h : v.toJson = .array items) :
    ∃ parts : List Toml, items = parts.map toJson := by
  cases v with
  | array parts => exact ⟨parts, (Json.array.inj h).symm.trans (itemsToJson_eq parts)⟩
  | _ => exact nomatch h

/-- The members of a table, written either way, are values of the text. -/
theorem exists_of_field {v : Toml} {exact : Bool} {names : List String} {f : Fields}
    (h : Fields.ofJson? exact names v.toJson = some f) {name : String} {j : Json}
    (hj : f name = some j) : ∃ part : Toml, j = part.toJson := by
  cases v with
  | moment written =>
      obtain rfl := Option.some.inj h
      obtain ⟨-, rfl⟩ := Prod.mk.inj (List.mem_singleton.1 (Json.mem_of_member? hj))
      exact ⟨.string written, rfl⟩
  | array parts =>
      rw [toJson, itemsToJson_eq, Fields.ofJson?] at h
      split at h
      · cases h
      · obtain rfl := Option.some.inj h
        obtain ⟨before, after, hzip, -⟩ := List.lookup_eq_some_iff.1 hj
        have hmem : (name, j) ∈ names.zip (parts.map toJson) := by simp [hzip]
        obtain ⟨part, -, hpart⟩ := List.mem_map.1 (List.of_mem_zip hmem).2
        exact ⟨part, hpart.symm⟩
  | table members =>
      rw [toJson, membersToJson_eq] at h
      obtain rfl := Option.some.inj h
      rcases Json.mem_of_mem_insertMembers (Json.mem_of_member? hj) with hmem | hnone
      · obtain ⟨m, -, hm⟩ := List.mem_map.1 hmem
        exact ⟨m.2, (Prod.mk.inj hm).2.symm⟩
      · exact absurd hnone List.not_mem_nil
  | _ => exact nomatch h

end Toml

/-! ## Members of a table -/

namespace Fields

theorem required_string_eq_some {f : Fields} {name s : String}
    (h : f.required name Json.string? = some s) : f name = some (.string s) := by
  obtain ⟨j, hj, hs⟩ := Option.bind_eq_some_iff.1 h
  rw [hj, Json.eq_string_of_string? hs]

/-- A member without a default that a table may lack is read if it is there. -/
theorem optional_nullable_eq_some {α : Type} {f : Fields} {name : String}
    {read : Json → Option α} {r : Option α}
    (h : f.optional name none (Json.nullable? read) = some r) (hnull : f name ≠ some .null) :
    f name = none ∧ r = none ∨ ∃ j a, f name = some j ∧ read j = some a ∧ r = some a := by
  unfold optional at h
  cases hj : f name with
  | none =>
      rw [hj] at h
      exact .inl ⟨rfl, (Option.some.inj h).symm⟩
  | some j =>
      rw [hj] at h hnull
      have hread : (read j).map some = some r := by
        cases j with
        | null => exact absurd rfl hnull
        | _ => exact h
      obtain ⟨a, ha, rfl⟩ := Option.map_eq_some_iff.1 hread
      exact .inr ⟨j, a, rfl, ha, rfl⟩

end Fields

theorem readText_of_readSettingsFile {t : FileTree} {path text : String}
    (h : readSettingsFile t path = .ok text) : t.readText path = .ok text := by
  unfold readSettingsFile at h
  cases hfile : t.readText path with
  | error fault =>
      rw [hfile] at h
      exact nomatch h
  | ok content =>
      rw [hfile] at h
      exact congrArg Except.ok (Except.ok.inj h)

/-! ## Sources -/

/-- The rule in a file is that of the JSON value which the file holds. -/
theorem Rule.load_eq_ok {t : FileTree} {path : String} {rule : Rule}
    (h : load t path = .ok rule) :
    ∃ text written, t.readText path = .ok text ∧ Json.read? text = some written ∧
      rule = Rule.ofJson written := by
  obtain ⟨text, htext, hrule⟩ := bind_eq_ok.1 h
  have hread := readText_of_readSettingsFile htext
  cases hjson : Json.read? text with
  | none =>
      rw [hjson] at hrule
      exact nomatch hrule
  | some written =>
      rw [hjson] at hrule
      exact ⟨text, written, hread, hjson, (Except.ok.inj hrule).symm⟩

namespace Source

/-- The members of a table that gives a source, written either way. -/
def fields? (table : Toml) : Option Fields :=
  Fields.ofJson? false ["name", "root-url", "product-detection", "rules-file"] table.toJson

/-- How a source follows from a table of the settings, which are a file in the given directory: its
name and its address are there, and either its rule or the file that the rule stands in. -/
structure Given (t : FileTree) (directory : String) (f : Fields) (s : Source) : Prop where
  name : f "name" = some (.string s.name)
  rootUrl : f "root-url" = some (.string s.rootUrl)
  rule :
    (∃ inline, f "product-detection" = some inline ∧ f "rules-file" = none ∧
      s.rule = some (Rule.ofSetting inline)) ∨
    ∃ file text written, f "product-detection" = none ∧ f "rules-file" = some (.string file) ∧
      t.readText (Path.join directory file) = .ok text ∧ Json.read? text = some written ∧
      s.rule = some (Rule.ofJson written)

/-- A source is changed by nothing but the file that its rule stands in. -/
theorem resolve_eq_ok {t : FileTree} {directory : String} {r s : Source}
    (h : r.resolve t directory = .ok s) :
    r.rulesFile = none ∧ s = r ∨
      ∃ file rule, r.rulesFile = some file ∧ r.rule = none ∧
        Rule.load t (Path.join directory file) = .ok rule ∧ s = { r with rule := some rule } := by
  unfold resolve at h
  split at h
  · next hnone => exact .inl ⟨hnone, (Except.ok.inj h).symm⟩
  · next file hfile =>
    split at h
    · cases h
    · next hrule =>
      obtain ⟨rule, hload, hs⟩ := bind_eq_ok.1 h
      refine .inr ⟨file, rule, hfile, ?_, hload, (Except.ok.inj hs).symm⟩
      rwa [Option.not_isSome_iff_eq_none] at hrule

/-- A source with a rule has been given it in one of two ways. -/
theorem given_of_resolve {t : FileTree} {directory : String} {table : Toml} {r s : Source}
    (hread : ofJson? false table.toJson = some r) (hs : r.resolve t directory = .ok s)
    (hrule : s.rule.isSome = true) :
    ∃ f, fields? table = some f ∧ s.Given t directory f := by
  simp only [ofJson?, bind, Option.bind_eq_some_iff, Option.some.injEq] at hread
  obtain ⟨f, hf, name, hname, rootUrl, hurl, rule, hinline, rulesFile, hfile, rfl⟩ := hread
  have hnull : ∀ name, f name ≠ some .null := by
    intro name hnone
    obtain ⟨part, hpart⟩ := Toml.exists_of_field hf hnone
    exact part.toJson_ne_null hpart.symm
  have hstring := Fields.required_string_eq_some hname
  have haddress := Fields.required_string_eq_some hurl
  refine ⟨f, hf, ?_⟩
  -- a source with a file has its rule from there, one without is as it was read
  rcases Fields.optional_nullable_eq_some hfile (hnull _) with
      ⟨hnofile, rfl⟩ | ⟨j, file, hj, hstringFile, rfl⟩
  · rcases resolve_eq_ok hs with ⟨-, rfl⟩ | ⟨file, -, hsome, -⟩
    · refine ⟨hstring, haddress, .inl ?_⟩
      rcases Fields.optional_nullable_eq_some hinline (hnull _) with
          ⟨-, rfl⟩ | ⟨inline, set, hset, hofSetting, rfl⟩
      · exact nomatch hrule
      · exact ⟨inline, hset, hnofile, hofSetting.symm⟩
    · exact nomatch hsome
  · rcases resolve_eq_ok hs with ⟨hnone, -⟩ | ⟨found, loaded, hsame, hnorule, hload, rfl⟩
    · exact nomatch hnone
    · refine ⟨hstring, haddress, .inr ?_⟩
      obtain rfl := Option.some.inj hsame
      obtain ⟨text, written, htext, hwritten, rfl⟩ := Rule.load_eq_ok hload
      refine ⟨file, text, written, ?_, ?_, htext, hwritten, rfl⟩
      · rcases Fields.optional_nullable_eq_some hinline (hnull _) with
            ⟨hunset, -⟩ | ⟨inline, set, -, -, rfl⟩
        · exact hunset
        · exact nomatch hnorule
      · rw [hj, Json.eq_string_of_string? hstringFile]

/-- The crawl of a valid source begins, with its rule and at its address. -/
theorem Valid.exists_crawl {strict : Bool} {s : Source} (h : s.Valid strict) (w : Web)
    (order : Session.Order) (pace : Pace) :
    ∃ rule start, s.rule = some rule ∧ Url.ofText s.rootUrl = .ok start ∧
      s.crawl w order pace = .ok ((Session.new start pace.limits).runUntil w.site rule order
        (Session.awaitsInVain w order)) := by
  obtain ⟨rule, hrule⟩ := Option.isSome_iff_exists.1 h.rule
  obtain ⟨start, hstart, -, -⟩ := h.rootUrl
  refine ⟨rule, start, hrule, hstart, ?_⟩
  have hsession : s.session pace = .ok (rule, Session.new start pace.limits) := by
    simp only [session, hrule, Session.ofText, hstart, bind, Except.bind]
  simp only [crawl, hsession, bind, Except.bind]

end Source

/-! ## Settings -/

namespace Settings

variable {t : FileTree} {path : String} {s : Settings} {warnings : List Warning}

/-- Loaded settings are those that were read, and they are valid. -/
theorem load_eq_ok (h : load t path = .ok (s, warnings)) : read t path = .ok s ∧ s.Valid := by
  obtain ⟨raw, hread, hvalidate⟩ := bind_eq_ok.1 h
  cases hviolation : raw.validate.violation with
  | some v =>
      simp only [hviolation] at hvalidate
      exact nomatch hvalidate
  | none =>
      simp only [hviolation] at hvalidate
      obtain ⟨rfl, -⟩ := Prod.mk.inj (Except.ok.inj hvalidate)
      exact ⟨hread, (violation_validate_eq_none_iff raw).1 hviolation⟩

theorem valid_of_load (h : load t path = .ok (s, warnings)) : s.Valid :=
  (load_eq_ok h).2

/-- The sources that a text gives are the items of an array. -/
theorem exists_items_of_ofText? {text : String} {raw : Settings} (h : ofText? text = some raw)
    (hsources : raw.sources ≠ []) :
    ∃ (table : Toml) (items : List Toml), Toml.read? text = some table ∧
      table.toJson.get? "source" = some (.array (items.map Toml.toJson)) ∧
      List.Forall₂ (fun item r => Source.ofJson? false item.toJson = some r) items
        raw.sources := by
  obtain ⟨table, htable, hraw⟩ := Option.bind_eq_some_iff.1 h
  simp only [ofJson?, bind, Option.bind_eq_some_iff, Option.some.injEq] at hraw
  obtain ⟨f, hf, pace, -, identity, -, resultsPath, -, sources, hread, rfl⟩ := hraw
  obtain ⟨members, rfl⟩ := Toml.exists_table_of_read? htable
  have hget : ∀ name, (Toml.table members).toJson.get? name = f name := by
    intro name
    obtain rfl := Option.some.inj hf
    rfl
  unfold Fields.optional at hread
  cases hj : f "source" with
  | none =>
      rw [hj] at hread
      exact absurd (Option.some.inj hread).symm hsources
  | some j =>
      rw [hj] at hread
      obtain ⟨part, rfl⟩ := Toml.exists_of_field hf hj
      obtain ⟨items, harray, hitems⟩ := Option.bind_eq_some_iff.1 hread
      have hpart : part.toJson = .array items := Json.eq_array_of_array? harray
      obtain ⟨tables, rfl⟩ := Toml.eq_array_of_toJson hpart
      refine ⟨.table members, tables, htable, (hget "source").trans (hj.trans ?_), ?_⟩
      · rw [hpart]
      · rwa [Text.mapM_eq_some_iff, List.forall₂_map_left_iff] at hitems

/-- The sources of settings that were read are those of the text, each with its rule. -/
theorem exists_items_of_read (h : read t path = .ok s) (hvalid : s.Valid) :
    ∃ (text : String) (table : Toml) (items : List Toml), t.readText path = .ok text ∧
      Toml.read? text = some table ∧
      table.toJson.get? "source" = some (.array (items.map Toml.toJson)) ∧
      List.Forall₂ (fun item source => ∃ f, Source.fields? item = some f ∧
        Source.Given t (Path.parent path) f source) items s.sources := by
  obtain ⟨text, htext, hsettings⟩ := bind_eq_ok.1 h
  cases hraw : ofText? text with
  | none =>
      simp only [hraw] at hsettings
      exact nomatch hsettings
  | some raw =>
      simp only [hraw] at hsettings
      obtain ⟨sources, hresolve, hs⟩ := bind_eq_ok.1 hsettings
      obtain rfl := Except.ok.inj hs
      rw [Text.mapM_eq_ok_iff] at hresolve
      -- valid settings have sources, so the array is not left out
      have hsome : raw.sources ≠ [] := by
        intro hnil
        rw [hnil, List.forall₂_nil_left_iff] at hresolve
        exact hvalid.sources_ne_nil hresolve
      obtain ⟨table, items, htable, hitems, hread⟩ := exists_items_of_ofText? hraw hsome
      refine ⟨text, table, items, readText_of_readSettingsFile htext, htable, hitems, ?_⟩
      have hboth := Text.forall₂_comp hread hresolve
      rw [List.forall₂_iff_zip] at hboth ⊢
      refine ⟨hboth.1, fun {item source} hmem => ?_⟩
      obtain ⟨r, hr, hsource⟩ := hboth.2 hmem
      exact Source.given_of_resolve hr hsource
        (hvalid.sources source (List.of_mem_zip hmem).2).rule

/-- Settings that can be loaded can be crawled. Each of their sources is given by an item of the
array of sources in the text, which sets either a rule in place or the file of one, and has the rule
of that value or of the JSON value which the file holds. If some of the settings are replaced and
nothing is wrong with that, the settings are still valid and the crawl of each source begins at
its address, whatever the web and the order in which visits end. -/
theorem crawlable_of_load (h : load t path = .ok (s, warnings)) :
    (∃ (text : String) (table : Toml) (items : List Toml), t.readText path = .ok text ∧
      Toml.read? text = some table ∧
      table.toJson.get? "source" = some (.array (items.map Toml.toJson)) ∧
      List.Forall₂ (fun item source => ∃ f, Source.fields? item = some f ∧
        Source.Given t (Path.parent path) f source) items s.sources) ∧
    ∀ o : Overrides, (s.override o).overrideViolation? = none →
      (s.override o).Valid ∧
      ∀ source ∈ (s.override o).sources, ∀ (w : Web) (order : Session.Order),
        ∃ rule start, source.rule = some rule ∧ Url.ofText source.rootUrl = .ok start ∧
          source.crawl w order (s.override o).pace =
            .ok ((Session.new start (s.override o).pace.limits).runUntil w.site rule order
              (Session.awaitsInVain w order)) := by
  obtain ⟨hread, hvalid⟩ := load_eq_ok h
  refine ⟨exists_items_of_read hread hvalid, fun o ho => ?_⟩
  have hoverridden := hvalid.override o ho
  exact ⟨hoverridden, fun source hsource w order =>
    (hoverridden.sources source hsource).exists_crawl w order _⟩

/-- Settings with two sources, the first one an array of its members with its rule in place, the
second one a table that names the file of its rule. -/
def shopsText : String :=
  "user-agent=[\"scout\",\"1\",\"http://[::1]/\",\"a@b.c\"]\n" ++
    "source=[[\"tea\",\"http://[::1]/\",\x7btype=\"tea\",condition=\x7btag=\"p\"\x7d\x7d]," ++
    "\x7bname=\"ink\",root-url=\"http://[::1]/?ink\",rules-file=\"ink.json\"\x7d]\n"

/-- The file of those settings, and the file of a rule without alternatives beside it. -/
def shops : FileTree :=
  { entries := [(["scout.toml"], .file shopsText.toUTF8),
      (["ink.json"], .file "\x7b\"or\":[]\x7d".toUTF8)] }

/-- Both shops can be crawled with a single worker. -/
theorem crawlable_of_load_shops :
    ∃ s warnings, load shops "scout.toml" = .ok (s, warnings) ∧
      s.sources.map Source.name = ["tea", "ink"] ∧
      (s.override { maxWorkers := some 1 }).overrideViolation? = none ∧
      ∀ source ∈ s.sources, ∀ (w : Web) (order : Session.Order),
        (source.crawl w order (s.override { maxWorkers := some 1 }).pace).isOk = true := by
  have hloaded : ((load shops "scout.toml").toOption.map fun r =>
      (r.1.sources.map Source.name,
        (r.1.override { maxWorkers := some 1 }).overrideViolation?.isNone)) =
      some (["tea", "ink"], true) := by
    decide +kernel
  obtain ⟨⟨s, warnings⟩, hload, hfound⟩ := exists_of_map_toOption hloaded
  obtain ⟨hnames, hnone⟩ := Prod.mk.inj hfound
  have ho : (s.override { maxWorkers := some 1 }).overrideViolation? = none :=
    Option.isNone_iff_eq_none.1 hnone
  refine ⟨s, warnings, hload, hnames, ho, fun source hsource w order => ?_⟩
  obtain ⟨-, hcrawl⟩ := (crawlable_of_load hload).2 { maxWorkers := some 1 } ho
  obtain ⟨rule, start, -, -, hok⟩ := hcrawl source hsource w order
  rw [hok]
  rfl

end Settings

end Prospector
