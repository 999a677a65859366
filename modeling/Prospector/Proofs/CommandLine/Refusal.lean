import Prospector.Main
import Prospector.Proofs.Catalog.Harvest
import Prospector.Proofs.Settings.Header

/-!
# Commands that change nothing

A command is refused if its arguments are wrong, if its settings or one of their rules cannot be
loaded, if its options do not go with its settings, if it names a source that the settings do not
have, or if its requests could not carry the identity. A command may also ask for a rehearsal. In
all these cases its end is that of a command which has done nothing, whatever the web is like. The
one other case is a crawl, and then everything that a command can be refused for has been looked at.

What a command says tells the two apart: the errors of a refused command begin in one of a few ways,
and the errors of a crawl in none of them.

## Main definitions

* `CommandLine.AsksRehearsal` : whether an argument asks for a rehearsal.
* `Options.Refused`, `CommandLine.Refused` : whether what is asked for, or a command, is refused.
* `Completion.IsRefusal` : whether a command says that it was refused.

## Main results

* `CommandLine.dryRun_of_read` : the argument that asks for a rehearsal does so, and no other does.
* `Options.perform_cases` : what a command asks for is refused, rehearsed or crawled.
* `CommandLine.untouched_of_refused` : nothing happens before everything is accepted.
-/

namespace Prospector

/-! ## Rehearsals -/

namespace CommandLine

/-- Whether an argument asks for a rehearsal. Behind `--` the same argument names a file. -/
def AsksRehearsal (arguments : List String) : Prop :=
  "--dry-run" ∈ arguments.takeWhile (· != "--")

instance (arguments : List String) : Decidable (AsksRehearsal arguments) :=
  inferInstanceAs (Decidable (_ ∈ _))

theorem asksRehearsal_cons {argument : String} (h : argument ≠ "--") (rest : List String) :
    AsksRehearsal (argument :: rest) ↔ argument = "--dry-run" ∨ AsksRehearsal rest := by
  have hgoes : (argument != "--") = true := bne_iff_ne.2 h
  simp only [AsksRehearsal, List.takeWhile_cons, hgoes, if_true, List.mem_cons]
  exact or_congr_left eq_comm

namespace Draft

variable {d d' : Draft}

theorem dryRun_of_finish {o : Options} (h : d.finish = .ok (.crawl o)) :
    o.dryRun = d.options.dryRun := by
  unfold finish at h
  split at h
  · cases h
  · split at h
    · cases h
    · cases h
      rfl

theorem dryRun_of_name {file : String} (h : d.name file = .ok d') :
    d'.options.dryRun = d.options.dryRun := by
  unfold name at h
  split at h
  · cases h
  · split at h
    · cases h
    · cases h
      rfl

theorem dryRun_of_replace {α : Type} {option : String} {old : Option α} {o : Overrides}
    (h : d.replace option old o = .ok d') : d'.options.dryRun = d.options.dryRun := by
  unfold replace at h
  split at h
  · cases h
  · cases h
    rfl

theorem dryRun_of_assign {value : String} {s : Setting} (h : d.assign value s = .ok d') :
    d'.options.dryRun = d.options.dryRun := by
  have hnumeric : ∀ {option read old put}, assign.numeric d value option read old put = .ok d' →
      d'.options.dryRun = d.options.dryRun := by
    intro option read old put hput
    unfold assign.numeric at hput
    split at hput
    · exact dryRun_of_replace hput
    · cases hput
  cases s with
  | source =>
      cases h
      rfl
  | output => exact dryRun_of_replace h
  | maxPages | maxDepth | maxWorkers =>
      unfold assign at h
      exact hnumeric h

theorem dryRun_of_raise {f : Flag} (h : d.raise f = .ok d') :
    d'.options.dryRun = true ↔ d.options.dryRun = true ∨ f = .dryRun := by
  cases f with
  | dryRun | quiet =>
      simp only [raise] at h
      split at h
      · cases h
      · cases h
        simp
  | strictRules => simp [dryRun_of_replace h]
  | verbose | help | version =>
      cases h
      simp

end Draft

/-! ### Short options -/

theorem ofLetter?_ne_dryRun (letter : Char) : Flag.ofLetter? letter ≠ some .dryRun := by
  intro h
  obtain ⟨before, after, hlist, -⟩ := List.lookup_eq_some_iff.1 h
  have hmem : (letter, Flag.dryRun) ∈ before ++ (letter, .dryRun) :: after := by simp
  rw [← hlist] at hmem
  simp at hmem

/-- No short option asks for a rehearsal. -/
theorem dryRun_of_readLetters {d d' : Draft} {argument : String} {letters : List Char}
    (h : readLetters d argument letters = .ok (.inr d')) :
    d'.options.dryRun = d.options.dryRun := by
  induction letters generalizing d with
  | nil =>
      cases h
      rfl
  | cons letter rest ih =>
      unfold readLetters at h
      split at h
      · cases h
      · cases h
      · cases h
      · next f _ _ hletter =>
        obtain ⟨raised, hraised, hrest⟩ := bind_eq_ok.1 h
        have hshort : f ≠ .dryRun := by
          rintro rfl
          exact ofLetter?_ne_dryRun letter hletter
        have hsame := Draft.dryRun_of_raise hraised
        rw [ih hrest, Bool.eq_iff_iff, hsame, or_iff_left hshort]

/-- Among short options, only help and version are commands. -/
theorem readLetters_ne_crawl (d : Draft) (argument : String) (letters : List Char) (o : Options) :
    readLetters d argument letters ≠ .ok (.inl (.crawl o)) := by
  intro h
  induction letters generalizing d with
  | nil => cases h
  | cons letter rest ih =>
      unfold readLetters at h
      split at h
      · cases h
      · cases h
      · cases h
      · obtain ⟨raised, -, hrest⟩ := bind_eq_ok.1 h
        exact ih raised hrest

/-! ### Long options and names -/

theorem dryRun_of_readNames {d : Draft} {arguments : List String} {o : Options}
    (h : readNames d arguments = .ok (.crawl o)) : o.dryRun = d.options.dryRun := by
  obtain ⟨named, hnamed, hfinish⟩ := bind_eq_ok.1 h
  rw [Draft.dryRun_of_finish hfinish]
  clear hfinish h
  induction arguments generalizing d with
  | nil =>
      cases hnamed
      rfl
  | cons file rest ih =>
      rw [List.foldlM_cons] at hnamed
      obtain ⟨next, hnext, hrest⟩ := bind_eq_ok.1 hnamed
      rw [ih hrest, Draft.dryRun_of_name hnext]

/-- A long argument without an equals sign is its name behind two dashes. -/
theorem eq_of_splitLong {argument name : String} (hlong : argument.startsWith "--" = true)
    (h : splitLong argument = (name, none)) : argument = "--" ++ name := by
  obtain ⟨rest, hrest⟩ := String.startsWith_string_iff.1 hlong
  have hdrop : argument.toList.drop 2 = rest := by
    rw [← hrest]
    rfl
  unfold splitLong at h
  simp only [hdrop] at h
  split at h
  · next hnil =>
    -- the name ends where the argument does
    have hall : rest.takeWhile (· != '=') = rest :=
      (List.takeWhile_prefix _).eq_of_length_le (List.drop_eq_nil_iff.1 hnil)
    obtain ⟨rfl, -⟩ := Prod.mk.inj h
    have hname : (String.ofList rest).toList = rest := String.toList_ofList
    apply String.toList_injective
    rw [hall, String.toList_append, hname, hrest]
  · cases h

theorem eq_of_ofName?_dryRun {name : String} (h : Switch.ofName? name = some (.flag .dryRun)) :
    name = "dry-run" := by
  obtain ⟨before, after, hlist, -⟩ := List.lookup_eq_some_iff.1 h
  have hmem : (name, Switch.flag .dryRun) ∈ before ++ (name, .flag .dryRun) :: after := by simp
  rw [← hlist] at hmem
  simpa using hmem

theorem ne_of_isValue {value : String} (h : isValue value = true) :
    value ≠ "--" ∧ value ≠ "--dry-run" := by
  constructor
  · rintro rfl
    exact absurd h (by decide +kernel)
  · rintro rfl
    exact absurd h (by decide +kernel)

/-- What arguments ask for is a rehearsal just if one of them says so. -/
theorem dryRun_of_read {d : Draft} {arguments : List String} {o : Options}
    (h : read d arguments = .ok (.crawl o)) :
    o.dryRun = true ↔ d.options.dryRun = true ∨ AsksRehearsal arguments := by
  have hnone : ¬AsksRehearsal [] := by decide
  have hname : splitLong "--dry-run" = ("dry-run", none) := by decide
  fun_induction read d arguments with
  | case1 d =>
      rw [Draft.dryRun_of_finish h, or_iff_left hnone]
  | case2 d argument rest hdashes =>
      obtain rfl := beq_iff_eq.1 hdashes
      rw [dryRun_of_readNames h, or_iff_left (by simp [AsksRehearsal])]
  | case7 d argument rest hdashes hlong name f hhelp hversion hswitch hsplit ih =>
      obtain ⟨raised, hraised, hrest⟩ := bind_eq_ok.1 h
      have hasks : f = .dryRun ↔ argument = "--dry-run" := by
        constructor
        · rintro rfl
          rw [eq_of_splitLong hlong hsplit, eq_of_ofName?_dryRun hswitch]
          rfl
        · rintro rfl
          obtain ⟨rfl, -⟩ := Prod.mk.inj (hname.symm.trans hsplit)
          cases hswitch
          rfl
      refine (ih raised hrest).trans ?_
      rw [Draft.dryRun_of_raise hraised, asksRehearsal_cons (mt beq_iff_eq.2 hdashes), hasks,
        or_assoc]
  | case8 d argument rest hdashes hlong name s value hswitch hsplit ih =>
      obtain ⟨assigned, hassigned, hrest⟩ := bind_eq_ok.1 h
      have hother : argument ≠ "--dry-run" := by
        rintro rfl
        cases hname.symm.trans hsplit
      refine (ih assigned hrest).trans ?_
      rw [Draft.dryRun_of_assign hassigned, asksRehearsal_cons (mt beq_iff_eq.2 hdashes),
        or_iff_right hother]
  | case9 d argument hdashes hlong name s hswitch value rest hvalue hsplit ih =>
      obtain ⟨assigned, hassigned, hrest⟩ := bind_eq_ok.1 h
      have hother : argument ≠ "--dry-run" := by
        rintro rfl
        obtain ⟨rfl, -⟩ := Prod.mk.inj (hname.symm.trans hsplit)
        cases hswitch
      have hplain := ne_of_isValue hvalue
      refine (ih assigned hrest).trans ?_
      rw [Draft.dryRun_of_assign hassigned, asksRehearsal_cons (mt beq_iff_eq.2 hdashes),
        or_iff_right hother, asksRehearsal_cons hplain.1, or_iff_right hplain.2]
  | case12 d argument rest hdashes hlong hvalue ih =>
      obtain ⟨named, hnamed, hrest⟩ := bind_eq_ok.1 h
      have hplain := ne_of_isValue hvalue
      refine (ih named hrest).trans ?_
      rw [Draft.dryRun_of_name hnamed, asksRehearsal_cons hplain.1, or_iff_right hplain.2]
  | case13 d argument rest hdashes hlong hvalue ih =>
      obtain ⟨c | short, hletters, hrest⟩ := bind_eq_ok.1 h
      · obtain rfl := Except.ok.inj hrest
        exact absurd hletters (readLetters_ne_crawl d argument _ o)
      · have hother : argument ≠ "--dry-run" := by
          rintro rfl
          exact hlong (by decide +kernel)
        refine (ih short hrest).trans ?_
        rw [dryRun_of_readLetters hletters, asksRehearsal_cons (mt beq_iff_eq.2 hdashes),
          or_iff_right hother]
  | _ => cases h

end CommandLine

/-! ## Refusals -/

/-- Whether what a command asks for is refused: the settings or a rule cannot be loaded, the options
do not go with the settings, the settings lack a source, or no request could carry the identity. -/
inductive Options.Refused (o : Options) (t : FileTree) : Prop where
  | settings (fault : SettingsFault) (h : Settings.load t o.config = .error fault)
  | overrides (s : Settings) (warnings : List Warning) (v : Violation)
      (hload : Settings.load t o.config = .ok (s, warnings))
      (h : (s.override o.overrides).overrideViolation? = some v)
  | source (s : Settings) (warnings : List Warning) (name : String)
      (hload : Settings.load t o.config = .ok (s, warnings)) (hname : name ∈ o.sources)
      (h : ∀ source ∈ s.sources, source.name ≠ name)
  | header (s : Settings) (warnings : List Warning)
      (hload : Settings.load t o.config = .ok (s, warnings)) (hcrawls : o.dryRun = false)
      (h : isHeader s.identity.header = false)

/-- Whether what a command asks for is accepted: the settings that are loaded, and the sources among
them that the command is about. -/
structure Options.Accepted (o : Options) (t : FileTree) (s : Settings) (sources : List Source) :
    Prop where
  load : ∃ warnings, Settings.load t o.config = .ok (s, warnings)
  overrides : (s.override o.overrides).overrideViolation? = none
  selected : o.selected (s.override o.overrides) = .ok sources
  header : o.dryRun = false → isHeader s.identity.header = true

/-- Whether a command is refused: its arguments are wrong, or what they ask for is refused. -/
inductive CommandLine.Refused (arguments : List String) (t : FileTree) : Prop where
  | arguments (fault : UsageFault) (h : Command.ofArguments arguments = .error fault)
  | options (o : Options) (h : Command.ofArguments arguments = .ok (.crawl o))
      (hrefused : o.Refused t)

namespace Failure

/-- How the failures begin that a command is refused for. -/
def refusals : List String :=
  ["Failed to load configuration ", "Invalid command-line override", "Unknown source '",
    "Failed to build HTTP client"]

/-- Whether a failure is one that a command is refused for. -/
def IsRefusal (f : Failure) : Prop :=
  ∃ opening ∈ refusals, ∃ rest, f.context = opening ++ rest

end Failure

/-- Whether a command says that it was refused: for its arguments, or for something else. -/
def Completion.IsRefusal (c : Completion) : Prop :=
  c.exitCode = 2 ∨ c.exitCode = 1 ∧
    ∃ opening ∈ Failure.refusals, ("Error: " ++ opening).toList <+: c.errors.toList

/-! ### What is said -/

/-- What is said about a failure begins with it, before the causes. -/
theorem Failure.prefix_text {f : Failure} {opening rest : String}
    (h : f.context = opening ++ rest) : ("Error: " ++ opening).toList <+: f.text.toList := by
  have hhead : ∀ (separator line : List Char) (lines : List (List Char)),
      line <+: separator.intercalate (line :: lines) := by
    intro separator line lines
    cases lines with
    | nil => simp
    | cons next rest =>
        rw [List.intercalate_cons_cons, List.append_assoc]
        exact List.prefix_append _ _
  have hopening : ("Error: " ++ opening).toList <+: ("Error: " ++ f.context).toList := by
    rw [h, ← String.append_assoc, String.toList_append (t := rest)]
    exact List.prefix_append _ _
  unfold text
  rw [String.toList_append (t := "\n"), String.toList_intercalate, List.map_cons]
  exact (hopening.trans (hhead _ _ _)).trans (List.prefix_append _ _)

theorem Completion.isRefusal_failed (t : FileTree) {f : Failure} (h : f.IsRefusal) :
    (failed t f).IsRefusal := by
  obtain ⟨opening, hopening, rest, hcontext⟩ := h
  exact .inr ⟨rfl, opening, hopening, Failure.prefix_text hcontext⟩

/-- The failure of a crawl is told in another way than a refusal. -/
theorem Harvest.not_prefix_text {path : String} {h : Harvest} {f : Failure}
    (hf : h.failure? path = some f) {opening : String} (hopening : opening ∈ Failure.refusals) :
    ¬("Error: " ++ opening).toList <+: f.text.toList := by
  have hother : ∃ own ∈ ["Crawl of source '", "Failed to save results to "],
      ("Error: " ++ own).toList <+: f.text.toList := by
    unfold failure? at hf
    split at hf
    · obtain rfl := Option.some.inj hf
      exact ⟨_, .head _, Failure.prefix_text (String.append_assoc ..)⟩
    · split at hf
      · obtain rfl := Option.some.inj hf
        exact ⟨_, .tail _ (.head _), Failure.prefix_text rfl⟩
      · cases hf
  have hapart : ∀ a ∈ Failure.refusals, ∀ b ∈ ["Crawl of source '", "Failed to save results to "],
      ¬("Error: " ++ a).toList <+: ("Error: " ++ b).toList ∧
        ¬("Error: " ++ b).toList <+: ("Error: " ++ a).toList := by
    decide
  obtain ⟨own, hown, hprefix⟩ := hother
  obtain ⟨hleft, hright⟩ := hapart opening hopening own hown
  intro hsame
  rcases List.prefix_or_prefix_of_prefix hsame hprefix with h | h
  · exact hleft h
  · exact hright h

/-- A command that has crawled does not say that it was refused. -/
theorem Completion.not_isRefusal_ofHarvests (path : String) (hs : List Harvest) (t : FileTree) :
    ¬(ofHarvests path hs t).IsRefusal := by
  intro hrefusal
  unfold ofHarvests IsRefusal at hrefusal
  cases hfailure : hs.findSome? fun h => h.failure? path with
  | none => simp [hfailure] at hrefusal
  | some f =>
      obtain ⟨h, -, hf⟩ := List.exists_of_findSome?_eq_some hfailure
      simp only [hfailure, Option.isSome_some, if_true, Option.map_some, Option.getD_some]
        at hrefusal
      rcases hrefusal with htwo | ⟨-, opening, hopening, hprefix⟩
      · exact absurd htwo (by decide)
      · exact Harvest.not_prefix_text hf hopening hprefix

/-! ### What happens -/

namespace Options

variable {o : Options} {t : FileTree} {s : Settings} {sources : List Source}

theorem exists_of_selected (h : o.selected s = .ok sources) {name : String}
    (hname : name ∈ o.sources) : ∃ source ∈ s.sources, source.name = name := by
  unfold selected at h
  split at h
  · next hempty => exact absurd hname (by simp [List.isEmpty_iff.1 hempty])
  · split at h
    · cases h
    · next hnone =>
      have hknown := List.find?_eq_none.1 hnone name hname
      simpa using hknown

/-- What is accepted is not refused. -/
theorem Accepted.not_refused (h : o.Accepted t s sources) : ¬o.Refused t := by
  obtain ⟨warnings, hload⟩ := h.load
  have hsame : ∀ {s' warnings'}, Settings.load t o.config = .ok (s', warnings') → s' = s :=
    fun hload' => (Prod.mk.inj (Except.ok.inj (hload'.symm.trans hload))).1
  intro hrefused
  cases hrefused with
  | settings fault hfault => cases hload.symm.trans hfault
  | overrides s' _ v hload' hv =>
      obtain rfl := hsame hload'
      cases h.overrides.symm.trans hv
  | source s' _ name hload' hname hunknown =>
      obtain rfl := hsame hload'
      obtain ⟨source, hsource, hfound⟩ := exists_of_selected h.selected hname
      exact hunknown source hsource hfound
  | header s' _ hload' hcrawls hheader =>
      obtain rfl := hsame hload'
      rw [h.header hcrawls] at hheader
      cases hheader

theorem refused_of_settings {f : Failure} (h : o.settings t = .error f) :
    o.Refused t ∧ f.IsRefusal := by
  unfold settings at h
  split at h
  · next fault hload =>
    obtain rfl := Except.error.inj h
    exact ⟨.settings fault hload, _, .head _, o.config, rfl⟩
  · next loaded warnings hload =>
    simp only at h
    split at h
    · next v hviolation =>
      obtain rfl := Except.error.inj h
      exact ⟨.overrides loaded warnings v hload hviolation, _, .tail _ (.head _), "", rfl⟩
    · cases h

theorem refused_of_selected {warnings : List Warning} {f : Failure}
    (hload : Settings.load t o.config = .ok (s, warnings))
    (h : o.selected (s.override o.overrides) = .error f) : o.Refused t ∧ f.IsRefusal := by
  unfold selected at h
  split at h
  · cases h
  · split at h
    · next name hname =>
      obtain rfl := Except.error.inj h
      have hunknown : ∀ source ∈ s.sources, source.name ≠ name := by
        have hnone := List.find?_some hname
        rw [Bool.not_eq_true', List.any_eq_false] at hnone
        exact fun source hsource hsame => hnone source hsource (beq_iff_eq.2 hsame)
      exact ⟨.source s warnings name hload (List.mem_of_find?_eq_some hname) hunknown, _,
        .tail _ (.tail _ (.head _)), name ++ "'", String.append_assoc ..⟩
    · cases h

/-- A command without a plan is refused, and its failure says so. -/
theorem refused_of_plan {f : Failure} (h : o.plan t = .error f) : o.Refused t ∧ f.IsRefusal := by
  rcases bind_eq_error.1 h with hsettings | ⟨settings, hsettings, hrest⟩
  · exact refused_of_settings hsettings
  · obtain ⟨loaded, warnings, hload, rfl, -⟩ := settings_eq_ok hsettings
    rcases bind_eq_error.1 hrest with hselected | ⟨sources, -, hok⟩
    · exact refused_of_selected hload hselected
    · cases hok

/-- What a command asks for is refused, and the failure is all there is to it, or it is accepted,
and then there is a rehearsal or a crawl. -/
theorem perform_cases (o : Options) (t : FileTree) :
    (o.Refused t ∧ ∃ f : Failure, f.IsRefusal ∧ ∀ w, o.perform t w = .failed t f) ∨
      ∃ s sources, o.Accepted t s sources ∧
        (o.dryRun = true ∧ (∀ w, o.perform t w =
          { output := CommandLine.rehearsal (s.override o.overrides) sources, files := t }) ∨
        o.dryRun = false ∧ ∀ w, o.perform t w = (s.override o.overrides).crawled w t sources) := by
  cases hplan : o.plan t with
  | error f =>
      obtain ⟨hrefused, hf⟩ := refused_of_plan hplan
      refine .inl ⟨hrefused, f, hf, fun w => ?_⟩
      rw [perform, hplan]
  | ok plan =>
      obtain ⟨r, sources⟩ := plan
      obtain ⟨s, warnings, hload, rfl, hviolation, hselected⟩ := plan_eq_ok hplan
      cases hdry : o.dryRun with
      | true =>
          have haccepted : o.Accepted t s sources := by
            refine ⟨⟨warnings, hload⟩, hviolation, hselected, fun hcrawls => ?_⟩
            cases hdry.symm.trans hcrawls
          refine .inr ⟨s, sources, haccepted, .inl ⟨rfl, fun w => ?_⟩⟩
          rw [perform, hplan]
          exact if_pos hdry
      | false =>
          have hcrawl : ∀ w, o.perform t w = (s.override o.overrides).crawlAll w t sources := by
            intro w
            rw [perform, hplan]
            exact if_neg (Bool.not_eq_true _ ▸ hdry)
          by_cases hheader : isHeader s.identity.header = true
          · refine .inr ⟨s, sources, ⟨⟨warnings, hload⟩, hviolation, hselected, fun _ => hheader⟩,
              .inr ⟨rfl, fun w => ?_⟩⟩
            rw [hcrawl w]
            exact Settings.crawlAll_of_isHeader (s := s.override o.overrides) hheader w t sources
          · refine .inl ⟨.header s warnings hload hdry (Bool.not_eq_true _ ▸ hheader), .header,
              ⟨_, .tail _ (.tail _ (.tail _ (.head _))), "", rfl⟩, fun w => ?_⟩
            rw [hcrawl w]
            exact if_neg hheader

end Options

/-- A file that has not changed is not written. -/
theorem Main.update_self (t : FileTree) (path : String) : update t t path = pure () := by
  unfold update
  cases hread : t.read path with
  | error fault => rfl
  | ok content =>
      obtain ⟨data⟩ := content
      have hsame : (ByteArray.mk data != ByteArray.mk data) = false := by
        show (!(data == data)) = false
        rw [beq_self_eq_true]
        rfl
      simp only [hsame]
      rfl

namespace CommandLine

section

variable {arguments : List String} {t : FileTree}

theorem refused_iff {o : Options} (h : Command.ofArguments arguments = .ok (.crawl o)) :
    Refused arguments t ↔ o.Refused t := by
  constructor
  · intro hrefused
    cases hrefused with
    | arguments fault hfault => cases h.symm.trans hfault
    | options o' ho hrefused =>
        cases h.symm.trans ho
        exact hrefused
  · exact .options o h

theorem not_refused {command : Command} (h : Command.ofArguments arguments = .ok command)
    (hother : ∀ o, command ≠ .crawl o) : ¬Refused arguments t := by
  intro hrefused
  cases hrefused with
  | arguments fault hfault => cases h.symm.trans hfault
  | options o ho => exact hother o (Except.ok.inj (h.symm.trans ho))

end

/-- How a command ends: as one that has done nothing, whatever the web, and it says that it was
refused just if it was, or as a crawl of what was accepted. -/
theorem execute_cases (arguments : List String) (t : FileTree) :
    (∃ c : Completion, (c.IsRefusal ↔ Refused arguments t) ∧ c.files = t ∧ c.requests = [] ∧
        ∀ w, execute arguments t w = c) ∨
      ∃ o s sources, Command.ofArguments arguments = .ok (.crawl o) ∧ o.dryRun = false ∧
        o.Accepted t s sources ∧
        ∀ w, execute arguments t w = (s.override o.overrides).crawled w t sources := by
  have hquiet : ∀ output, ¬({ output, files := t } : Completion).IsRefusal := by
    rintro output (htwo | ⟨hone, -⟩)
    · cases htwo
    · cases hone
  cases hcommand : Command.ofArguments arguments with
  | error fault =>
      refine .inl ⟨{ exitCode := 2, errors := usageText fault, files := t },
        iff_of_true (.inl rfl) (.arguments fault hcommand), rfl, rfl, fun w => ?_⟩
      rw [execute, hcommand]
  | ok command =>
      have hexecute : ∀ w, execute arguments t w = command.perform t w := by
        intro w
        rw [execute, hcommand]
      cases command with
      | help | version =>
          exact .inl ⟨_, iff_of_false (hquiet _) (not_refused hcommand nofun), rfl, rfl, hexecute⟩
      | crawl o =>
          have hrefused := refused_iff (t := t) hcommand
          rcases o.perform_cases t with
              ⟨h, f, hf, hperform⟩ | ⟨s, sources, haccepted, ⟨hdry, hperform⟩ | ⟨hdry, hperform⟩⟩
          · exact .inl ⟨_, iff_of_true (Completion.isRefusal_failed t hf) (hrefused.2 h), rfl, rfl,
              fun w => (hexecute w).trans (hperform w)⟩
          · exact .inl ⟨_, iff_of_false (hquiet _) (mt hrefused.1 haccepted.not_refused), rfl, rfl,
              fun w => (hexecute w).trans (hperform w)⟩
          · exact .inr ⟨o, s, sources, rfl, hdry, haccepted,
              fun w => (hexecute w).trans (hperform w)⟩

/-- Let a command ask for a rehearsal, or let it be refused: its arguments are wrong, its settings
or a rule cannot be loaded, its options do not go with the settings, it names a source that is not
there, or no request could carry the identity. Then it ends in the same way whatever the web, no
request has reached a server, and the files and directories are those from before, so that nothing
is written. A command is refused just if its exit code and its errors say so. If a command has made
a request or changed anything, it is the crawl of settings that were loaded, were found to go with
its options and have all the sources that it names, with an identity that requests can carry, and it
did not ask for a rehearsal. -/
theorem untouched_of_refused (arguments : List String) (t : FileTree) :
    (AsksRehearsal arguments ∨ Refused arguments t →
      ∃ c : Completion, (∀ w, execute arguments t w = c) ∧ c.requests = [] ∧ c.files = t ∧
        ∀ path, Main.update t c.files path = pure ()) ∧
    (∀ w, (execute arguments t w).IsRefusal ↔ Refused arguments t) ∧
    ∀ w, (execute arguments t w).requests ≠ [] ∨ (execute arguments t w).files ≠ t →
      ∃ o s sources, Command.ofArguments arguments = .ok (.crawl o) ∧ ¬AsksRehearsal arguments ∧
        o.Accepted t s sources ∧
        execute arguments t w = (s.override o.overrides).crawled w t sources := by
  rcases execute_cases arguments t with
      ⟨c, hrefusal, hfiles, hrequests, hexecute⟩ |
      ⟨o, s, sources, hcommand, hdry, haccepted, hcrawl⟩
  · refine ⟨fun _ => ⟨c, hexecute, hrequests, hfiles, fun path => ?_⟩, fun w => ?_,
      fun w hchange => ?_⟩
    · rw [hfiles]
      exact Main.update_self t path
    · rw [hexecute w]
      exact hrefusal
    · rw [hexecute w] at hchange
      rcases hchange with h | h
      · exact absurd hrequests h
      · exact absurd hfiles h
  · have hnot : ¬Refused arguments t := mt (refused_iff hcommand).1 haccepted.not_refused
    have hasks : ¬AsksRehearsal arguments := by
      intro h
      have hrehearses := (dryRun_of_read hcommand).2 (.inr h)
      exact nomatch hdry.symm.trans hrehearses
    refine ⟨?_, fun w => ?_, fun w _ => ⟨o, s, sources, hcommand, hasks, haccepted, hcrawl w⟩⟩
    · rintro (h | h)
      · exact absurd h hasks
      · exact absurd h hnot
    · rw [hcrawl w]
      exact iff_of_false (Completion.not_isRefusal_ofHarvests _ _ _) hnot

/-- The requests of a run are those of the first crawl and maybe more. -/
theorem requests_crawled {s : Settings} {w : Web} {source : Source} {interrupted : Bool}
    {session : Session} (h : source.crawl w Session.inTurn s.pace = .ok (interrupted, session))
    (hrequests : session.requests w ≠ []) (t : FileTree) (rest : List Source) :
    (s.crawled w t (source :: rest)).requests ≠ [] := by
  obtain ⟨url, hurl⟩ := List.exists_mem_of_ne_nil _ hrequests
  have hfirst : url ∈ (source.harvest w Session.inTurn s.pace s.resultsPath t).1.requests := by
    simpa only [Source.harvest, h] using hurl
  exact List.ne_nil_of_mem
    (List.mem_flatMap_of_mem (Settings.head_mem_harvest s w (fun _ => Session.inTurn) t source rest)
      hfirst)

/-- The shops have no third source, so nothing happens, and neither does in a rehearsal. Without
either, the first shop is visited. -/
theorem untouched_of_refused_shops :
    (Refused ["scout.toml", "--source", "milk"] Settings.shops ∧ ∀ w,
      (execute ["scout.toml", "--source", "milk"] Settings.shops w).requests = [] ∧
      (execute ["scout.toml", "--source", "milk"] Settings.shops w).files = Settings.shops) ∧
    (AsksRehearsal ["--dry-run", "scout.toml"] ∧ ∀ w,
      (execute ["--dry-run", "scout.toml"] Settings.shops w).requests = [] ∧
      (execute ["--dry-run", "scout.toml"] Settings.shops w).files = Settings.shops) ∧
    (execute ["scout.toml"] Settings.shops leaflets).requests ≠ [] ∧
    ∃ o s sources, Command.ofArguments ["scout.toml"] = .ok (.crawl o) ∧
      o.Accepted Settings.shops s sources := by
  have hnothing : ∀ arguments, AsksRehearsal arguments ∨ Refused arguments Settings.shops →
      ∀ w, (execute arguments Settings.shops w).requests = [] ∧
        (execute arguments Settings.shops w).files = Settings.shops := by
    intro arguments h w
    obtain ⟨c, hexecute, hrequests, hfiles, -⟩ :=
      (untouched_of_refused arguments Settings.shops).1 h
    rw [hexecute w]
    exact ⟨hrequests, hfiles⟩
  have hspoken : (execute ["scout.toml", "--source", "milk"] Settings.shops .offline).exitCode = 1 ∧
      ("Error: " ++ "Unknown source '").toList <+:
        (execute ["scout.toml", "--source", "milk"] Settings.shops .offline).errors.toList := by
    decide +kernel
  have hrefused : Refused ["scout.toml", "--source", "milk"] Settings.shops :=
    ((untouched_of_refused _ Settings.shops).2.1 .offline).1
      (.inr ⟨hspoken.1, _, .tail _ (.tail _ (.head _)), hspoken.2⟩)
  have hasks : AsksRehearsal ["--dry-run", "scout.toml"] := by decide
  have hvisited : (execute ["scout.toml"] Settings.shops leaflets).requests ≠ [] := by
    have hcommand : Command.ofArguments ["scout.toml"] =
        .ok (.crawl { config := "scout.toml" }) := by
      decide +kernel
    have hplanned : ((Options.plan { config := "scout.toml" } Settings.shops).toOption.map fun r =>
        (isHeader r.1.identity.header, r.2.map fun source =>
          (source.finished? 4 leaflets Session.inTurn r.1.pace).map (Session.requests leaflets))) =
        some (true, [some ["http://[::1]/"], some ["http://[::1]/?ink"]]) := by
      decide +kernel
    obtain ⟨⟨r, sources⟩, hplan, hfound⟩ := exists_of_map_toOption hplanned
    obtain ⟨hheader, hsources⟩ := Prod.mk.inj hfound
    obtain ⟨tea, rest, rfl, htea, -⟩ := List.map_eq_cons_iff.1 hsources
    obtain ⟨session, hfinished, hrequests⟩ := Option.map_eq_some_iff.1 htea
    have hexecute : execute ["scout.toml"] Settings.shops leaflets =
        r.crawled leaflets Settings.shops (tea :: rest) := by
      rw [execute, hcommand]
      show Options.perform { config := "scout.toml" } Settings.shops leaflets = _
      rw [Options.perform, hplan]
      show r.crawlAll leaflets Settings.shops (tea :: rest) = _
      exact Settings.crawlAll_of_isHeader hheader _ _ _
    rw [hexecute]
    refine requests_crawled
      (Source.crawl_eq_of_finished (awaitsInVain_leaflets Session.inTurn) hfinished) ?_ _ _
    rw [hrequests]
    exact List.cons_ne_nil _ _
  obtain ⟨o, s, sources, ho, -, haccepted, -⟩ :=
    (untouched_of_refused ["scout.toml"] Settings.shops).2.2 leaflets (.inl hvisited)
  exact ⟨⟨hrefused, hnothing _ (.inr hrefused)⟩, ⟨hasks, hnothing _ (.inl hasks)⟩, hvisited,
    o, s, sources, ho, haccepted⟩

end CommandLine

end Prospector
