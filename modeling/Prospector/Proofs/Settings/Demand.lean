import Mathlib.Data.List.Range
import Prospector.Proofs.Settings.Validation
import Prospector.Proofs.Text.Blank

/-!
# What settings are asked for

Settings are asked for one thing after the other, and the first demand that they break is the
violation that validation finds. What breaks a demand is said here apart from all other demands and
of any settings, so several may be broken at once. The demands stand in the order in which they are
made: those of the pace, those of the identity, the path of the results, that there are sources, and
then source by source all that is asked of one.

## Main definitions

* `Source.Demand`, `Source.Breaks` : what is asked of one source, and what breaks it.
* `Settings.Demand`, `Settings.demands`, `Settings.Breaks` : what is asked of settings, in order.
* `Finds` : what comes of going through demands up to the first that is broken.
* `Settings.Documented` : settings as they should be.

## Main results

* `Settings.finds_demands` : validation goes through the demands in order.
* `Settings.first_breach` : it finds nothing wrong just with settings as they should be, and else
  the first demand that is broken.
-/

namespace Prospector

/-! ## Texts -/

/-- A text is cut in two by a separator just if that stands once in it. -/
theorem Text.splitAtChar_eq_pair_iff {sep : Char} {cs front back : List Char} :
    splitAtChar sep cs = [front, back] ↔ cs = front ++ sep :: back ∧ sep ∉ front ∧ sep ∉ back := by
  constructor
  · intro h
    have hcs : cs = front ++ sep :: back := by
      have hjoined : [sep].intercalate (splitAtChar sep cs) = cs := by
        rw [splitAtChar_eq_splitOn, List.intercalate_splitOn]
      rw [← hjoined, h]
      simp
    have hfree : ∀ part ∈ [front, back], sep ∉ part := by
      intro part hpart hmem
      rw [← h] at hpart
      exact (mem_of_mem_splitAtChar hpart hmem).2 rfl
    exact ⟨hcs, hfree front (by simp), hfree back (by simp)⟩
  · rintro ⟨rfl, hfront, hback⟩
    have hjoined : front ++ sep :: back = [sep].intercalate [front, back] := by simp
    rw [splitAtChar_eq_splitOn, hjoined]
    apply List.splitOn_intercalate
    · simp [hfront, hback]
    · simp

/-- Whether a text is an e-mail address: the only `@` in it has something before it and something
with a dot behind it. -/
def IsEmail (s : String) : Prop :=
  ∃ user domain, s.toList = user ++ '@' :: domain ∧ '@' ∉ user ∧ '@' ∉ domain ∧ user ≠ [] ∧
    domain ≠ [] ∧ '.' ∈ domain

theorem isEmail_iff {s : String} : IsEmail s ↔
    ∃ user domain, Text.splitAtChar '@' s.toList = [user, domain] ∧ user ≠ [] ∧ '.' ∈ domain := by
  constructor
  · rintro ⟨user, domain, hs, huser, hdomain, hne, -, hdot⟩
    exact ⟨user, domain, Text.splitAtChar_eq_pair_iff.2 ⟨hs, huser, hdomain⟩, hne, hdot⟩
  · rintro ⟨user, domain, hsplit, hne, hdot⟩
    obtain ⟨hs, huser, hdomain⟩ := Text.splitAtChar_eq_pair_iff.1 hsplit
    exact ⟨user, domain, hs, huser, hdomain, hne, List.ne_nil_of_mem hdot, hdot⟩

/-! ## Going through demands -/

section Finds

variable {D E : Type} {breaks : D → Violation → Prop}

/-- `Finds breaks demands found` says what comes of going through demands one by one: the violation
that the first broken one is, or nothing if none is broken. -/
inductive Finds (breaks : D → Violation → Prop) : List D → Option Violation → Prop
  | nil : Finds breaks [] none
  | broken {d : D} {v : Violation} {rest : List D} : breaks d v → Finds breaks (d :: rest) (some v)
  | met {d : D} {rest : List D} {found : Option Violation} : (∀ v, ¬breaks d v) →
      Finds breaks rest found → Finds breaks (d :: rest) found

namespace Finds

/-- A check finds its violation if the demand is broken, and else the next demand is looked at. -/
theorem check {d : D} {v : Violation} {p : Prop} [Decidable p] {rest : List D}
    {found : Option Violation} (hbroken : p → breaks d v) (hmet : ∀ w, breaks d w → p)
    (hrest : ¬p → Finds breaks rest found) :
    Finds breaks (d :: rest) (if p then some v else found) := by
  by_cases hp : p
  · rw [if_pos hp]
    exact .broken (hbroken hp)
  · rw [if_neg hp]
    exact .met (fun w hw => hp (hmet w hw)) (hrest hp)

theorem append {front back : List D} {found later : Option Violation}
    (h : Finds breaks front found) (hback : Finds breaks back later) :
    Finds breaks (front ++ back) (found <|> later) := by
  induction h with
  | nil => exact hback
  | broken hd => exact .broken hd
  | met hd _ ih => exact .met hd ih

/-- Demands may be renamed if what breaks them stays the same. -/
theorem map {breaks' : E → Violation → Prop} {f : D → E} {demands : List D}
    {found : Option Violation} (h : Finds breaks demands found)
    (hsame : ∀ d v, breaks' (f d) v ↔ breaks d v) : Finds breaks' (demands.map f) found := by
  induction h with
  | nil => exact .nil
  | broken hd => exact .broken ((hsame _ _).2 hd)
  | met hd _ ih => exact .met (fun v hv => hd v ((hsame _ v).1 hv)) ih

/-- What is found is the first demand that is broken, if a demand is broken in one way only. -/
theorem eq_some_iff {demands : List D} {found : Option Violation} (h : Finds breaks demands found)
    (hunique : ∀ d v w, breaks d v → breaks d w → v = w) (v : Violation) :
    found = some v ↔ ∃ before d after, demands = before ++ d :: after ∧ breaks d v ∧
      ∀ e ∈ before, ∀ w, ¬breaks e w := by
  induction h with
  | nil => simp
  | @broken d w rest hd =>
      constructor
      · intro hsame
        obtain rfl := Option.some.inj hsame
        exact ⟨[], d, rest, rfl, hd, by simp⟩
      · rintro ⟨before, e, after, hdemands, he, hbefore⟩
        cases before with
        | nil =>
            obtain ⟨rfl, -⟩ := List.cons.inj hdemands
            rw [hunique d w v hd he]
        | cons first before =>
            obtain ⟨rfl, -⟩ := List.cons.inj hdemands
            exact absurd hd (hbefore d (by simp) w)
  | @met d rest found hd _ ih =>
      rw [ih]
      constructor
      · rintro ⟨before, e, after, rfl, he, hbefore⟩
        exact ⟨d :: before, e, after, rfl, he, List.forall_mem_cons.2 ⟨hd, hbefore⟩⟩
      · rintro ⟨before, e, after, hdemands, he, hbefore⟩
        cases before with
        | nil =>
            obtain ⟨rfl, -⟩ := List.cons.inj hdemands
            exact absurd he (hd v)
        | cons first before =>
            obtain ⟨-, rfl⟩ := List.cons.inj hdemands
            exact ⟨before, e, after, rfl, he, (List.forall_mem_cons.1 hbefore).2⟩

end Finds

end Finds

/-! ## Sources -/

namespace Source

/-- What is asked of a source. -/
inductive Demand where
  | name
  | newName
  | rootUrl
  | rootUrlScheme
  | rootUrlHost
  | rule
  | wellFormedRule
  deriving DecidableEq, Repr

/-- What is asked of a source, in order. -/
def demands : List Demand :=
  [.name, .newName, .rootUrl, .rootUrlScheme, .rootUrlHost, .rule, .wellFormedRule]

/-- `s.Breaks strict before d v` says that a source behind others of the given names breaks a
demand, which is the violation `v`. -/
inductive Breaks (strict : Bool) (before : List String) (s : Source) : Demand → Violation → Prop
  | name : (∀ c ∈ s.name.toList, Text.isBlank c = true) →
      Breaks strict before s .name .sourceNameEmpty
  | newName : s.name ∈ before → Breaks strict before s .newName (.duplicateSource s.name)
  | rootUrl {fault : Url.Fault} : Url.ofText s.rootUrl = .error fault →
      Breaks strict before s .rootUrl (.rootUrl s.rootUrl fault)
  | rootUrlScheme {u : Url} : Url.ofText s.rootUrl = .ok u → u.scheme ≠ "http" →
      u.scheme ≠ "https" → Breaks strict before s .rootUrlScheme (.rootUrlScheme s.rootUrl)
  | rootUrlHost {u : Url} : Url.ofText s.rootUrl = .ok u → u.hasHost = false →
      Breaks strict before s .rootUrlHost (.rootUrlHost s.rootUrl)
  | rule : s.rule = none → Breaks strict before s .rule (.noRule s.name)
  | wellFormedRule {rule : Rule} : strict = true → s.rule = some rule → rule.problems ≠ [] →
      Breaks strict before s .wellFormedRule (.malformedRule s.name rule.problems)

variable {strict : Bool} {before : List String} {s : Source}

theorem Breaks.unique {d : Demand} {v w : Violation} (hv : s.Breaks strict before d v)
    (hw : s.Breaks strict before d w) : v = w := by
  cases hv with
  | rootUrl hfault =>
      cases hw with
      | rootUrl hfault' =>
          rw [hfault] at hfault'
          rw [Except.error.inj hfault']
  | wellFormedRule _ hrule _ =>
      cases hw with
      | wellFormedRule _ hrule' _ =>
          rw [hrule] at hrule'
          rw [Option.some.inj hrule']
  | name _ => cases hw; rfl
  | newName _ => cases hw; rfl
  | rootUrlScheme _ _ _ => cases hw; rfl
  | rootUrlHost _ _ => cases hw; rfl
  | rule _ => cases hw; rfl

/-- The checks of a source's address go through the demands on it. -/
theorem finds_rootUrl (strict : Bool) (before : List String) (s : Source) :
    Finds (s.Breaks strict before) [.rootUrl, .rootUrlScheme, .rootUrlHost]
      (rootUrlViolation? s.rootUrl) := by
  unfold rootUrlViolation?
  cases hread : Url.ofText s.rootUrl with
  | error fault => exact .broken (.rootUrl hread)
  | ok u =>
      have hsame : ∀ {u'}, Url.ofText s.rootUrl = .ok u' → u' = u := by
        intro u' hread'
        exact (Except.ok.inj (hread.symm.trans hread')).symm
      refine .met ?_ (.check ?_ ?_ fun _ => .check ?_ ?_ fun _ => .nil)
      · intro v hv
        cases hv with
        | rootUrl hfault => exact nomatch hread.symm.trans hfault
      · intro hweb
        have hscheme : u.scheme ≠ "http" ∧ u.scheme ≠ "https" := by simpa [Url.isWeb] using hweb
        exact .rootUrlScheme hread hscheme.1 hscheme.2
      · intro v hv
        cases hv with
        | rootUrlScheme hread' hhttp hhttps =>
            rw [hsame hread'] at hhttp hhttps
            simp [Url.isWeb, hhttp, hhttps]
      · intro hhost
        exact .rootUrlHost hread (by simpa using hhost)
      · intro v hv
        cases hv with
        | rootUrlHost hread' hnone =>
            rw [hsame hread'] at hnone
            simp [hnone]

/-- The checks of a source's rule go through the demands on it. -/
theorem finds_rule (strict : Bool) (before : List String) (s : Source) :
    Finds (s.Breaks strict before) [.rule, .wellFormedRule]
      (if s.rule.isNone then some (.noRule s.name)
        else if strict then s.ruleViolation? else none) := by
  refine .check ?_ ?_ ?_
  · intro hnone
    exact .rule (Option.isNone_iff_eq_none.1 hnone)
  · intro v hv
    cases hv with
    | rule hnone => exact Option.isNone_iff_eq_none.2 hnone
  · intro hsome
    obtain ⟨rule, hrule⟩ := Option.ne_none_iff_exists'.1 (mt Option.isNone_iff_eq_none.2 hsome)
    have hproblems : s.problems = rule.problems := by rw [problems, hrule]
    have hfound : (if strict then s.ruleViolation? else none) =
        if strict = true ∧ rule.problems ≠ [] then some (.malformedRule s.name rule.problems)
          else none := by
      by_cases hstrict : strict = true <;> by_cases hnil : rule.problems = [] <;>
        simp [ruleViolation?, hproblems, hstrict, hnil]
    rw [hfound]
    refine .check ?_ ?_ fun _ => .nil
    · intro hbad
      exact .wellFormedRule hbad.1 hrule hbad.2
    · intro v hv
      cases hv with
      | wellFormedRule hstrict hrule' hne =>
          obtain rfl := Option.some.inj (hrule.symm.trans hrule')
          exact ⟨hstrict, hne⟩

/-- The checks of a source go through the demands on it. -/
theorem finds_demands (strict : Bool) {names before : List String}
    (hnames : ∀ name, name ∈ names ↔ name ∈ before) (s : Source) :
    Finds (s.Breaks strict before) demands (s.violation? strict names) := by
  have hfound := (finds_rootUrl strict before s).append (finds_rule strict before s)
  refine .check ?_ ?_ fun _ => .check ?_ ?_ fun _ => ?_
  · intro hblank
    exact .name (Text.trim_eq_empty_iff.1 (String.isEmpty_iff.1 hblank))
  · intro v hv
    cases hv with
    | name hall => exact String.isEmpty_iff.2 (Text.trim_eq_empty_iff.2 hall)
  · intro hold
    exact .newName ((hnames s.name).1 (List.contains_iff_mem.1 hold))
  · intro v hv
    cases hv with
    | newName hmem => exact List.contains_iff_mem.2 ((hnames s.name).2 hmem)
  · cases hroot : rootUrlViolation? s.rootUrl with
    | some v =>
        rw [hroot] at hfound
        exact hfound
    | none =>
        rw [hroot] at hfound
        exact hfound

end Source

/-! ## Sections -/

namespace Settings

/-- What is asked of settings. -/
inductive Demand where
  | workers
  | timeout
  | name
  | nameCharacters
  | contactUrl
  | email
  | emailFormat
  | emailDomain
  | resultsPath
  | someSource
  | source (index : Nat) (d : Source.Demand)
  deriving DecidableEq, Repr

/-- What is asked of settings, in order. -/
def demands (s : Settings) : List Demand :=
  [.workers, .timeout] ++
    ([.name, .nameCharacters, .contactUrl, .email, .emailFormat, .emailDomain] ++
      ([.resultsPath] ++
        (.someSource ::
          (List.range s.sources.length).flatMap fun i => Source.demands.map (.source i))))

/-- `s.Breaks d v` says that settings break a demand, which is the violation `v`. -/
inductive Breaks (s : Settings) : Demand → Violation → Prop
  | workers : ¬(1 ≤ s.pace.maxWorkers ∧ s.pace.maxWorkers ≤ 256) →
      Breaks s .workers (.workersOutOfRange s.pace.maxWorkers)
  | timeout : ¬1 ≤ s.pace.timeoutSeconds →
      Breaks s .timeout (.timeoutTooShort s.pace.timeoutSeconds)
  | name : s.identity.name = "" → Breaks s .name .nameEmpty
  | nameCharacters {c : Char} : c ∈ s.identity.name.toList → Text.isAlphanumeric c = false →
      c ≠ '-' → Breaks s .nameCharacters (.nameCharacters s.identity.name)
  | contactUrl {fault : Url.Fault} : Url.ofText s.identity.url = .error fault →
      Breaks s .contactUrl (.contactUrl fault)
  | email : s.identity.email = "" → Breaks s .email .emailEmpty
  | emailFormat : (∀ user domain, s.identity.email.toList = user ++ '@' :: domain → '@' ∉ user →
        '@' ∉ domain → user ≠ [] → domain = []) →
      Breaks s .emailFormat (.emailFormat s.identity.email)
  | emailDomain {user domain : List Char} : s.identity.email.toList = user ++ '@' :: domain →
      '@' ∉ user → '@' ∉ domain → '.' ∉ domain →
      Breaks s .emailDomain (.emailDomain s.identity.email)
  | resultsPath : s.resultsPath = "" → Breaks s .resultsPath .resultsPathEmpty
  | someSource : s.sources = [] → Breaks s .someSource .noSources
  | source {i : Nat} {source : Source} {d : Source.Demand} {v : Violation} :
      s.sources[i]? = some source →
      source.Breaks s.pace.strictRules ((s.sources.take i).map Source.name) d v →
      Breaks s (.source i d) v

variable {s : Settings}

theorem breaks_source_iff {i : Nat} {source : Source} (h : s.sources[i]? = some source)
    (d : Source.Demand) (v : Violation) : s.Breaks (.source i d) v ↔
      source.Breaks s.pace.strictRules ((s.sources.take i).map Source.name) d v := by
  constructor
  · intro hv
    cases hv with
    | source h' hbreaks =>
        rw [h] at h'
        obtain rfl := Option.some.inj h'
        exact hbreaks
  · exact Breaks.source h

theorem Breaks.unique {d : Demand} {v w : Violation} (hv : s.Breaks d v) (hw : s.Breaks d w) :
    v = w := by
  cases hv with
  | contactUrl hfault =>
      cases hw with
      | contactUrl hfault' =>
          rw [hfault] at hfault'
          rw [Except.error.inj hfault']
  | source hsource hbreaks => exact hbreaks.unique ((breaks_source_iff hsource _ w).1 hw)
  | workers _ => cases hw; rfl
  | timeout _ => cases hw; rfl
  | name _ => cases hw; rfl
  | nameCharacters _ _ _ => cases hw; rfl
  | email _ => cases hw; rfl
  | emailFormat _ => cases hw; rfl
  | emailDomain _ _ _ _ => cases hw; rfl
  | resultsPath _ => cases hw; rfl
  | someSource _ => cases hw; rfl

theorem finds_pace (s : Settings) : Finds s.Breaks [.workers, .timeout] s.pace.violation? := by
  have hrange : (decide (s.pace.maxWorkers < 1) || decide (workerLimit < s.pace.maxWorkers)) =
      true ↔ ¬(1 ≤ s.pace.maxWorkers ∧ s.pace.maxWorkers ≤ 256) := by
    rw [Bool.or_eq_true, decide_eq_true_eq, decide_eq_true_eq]
    unfold workerLimit
    omega
  refine .check ?_ ?_ fun _ => .check ?_ ?_ fun _ => .nil
  · intro hbad
    exact .workers (hrange.1 hbad)
  · intro v hv
    cases hv with
    | workers hbad => exact hrange.2 hbad
  · intro hbad
    exact .timeout (Nat.not_le.2 hbad)
  · intro v hv
    cases hv with
    | timeout hbad => exact Nat.not_le.1 hbad

theorem finds_email (s : Settings) :
    Finds s.Breaks [.email, .emailFormat, .emailDomain] (emailViolation? s.identity.email) := by
  refine .check ?_ ?_ fun _ => ?_
  · intro hempty
    exact .email (String.isEmpty_iff.1 hempty)
  · intro v hv
    cases hv with
    | email hempty => exact String.isEmpty_iff.2 hempty
  split
  · next user domain hsplit =>
    obtain ⟨hemail, huser, hdomain⟩ := Text.splitAtChar_eq_pair_iff.1 hsplit
    -- the text is cut in two in this way only
    have hsame : ∀ {user' domain'}, s.identity.email.toList = user' ++ '@' :: domain' →
        '@' ∉ user' → '@' ∉ domain' → user' = user ∧ domain' = domain := by
      intro user' domain' hemail' huser' hdomain'
      rw [Text.splitAtChar_eq_pair_iff.2 ⟨hemail', huser', hdomain'⟩] at hsplit
      simpa using hsplit
    have hparts : (user.isEmpty || domain.isEmpty) = true ↔ user = [] ∨ domain = [] := by simp
    refine .check ?_ ?_ fun _ => ?_
    · intro hbad
      refine .emailFormat ?_
      intro user' domain' hemail' huser' hdomain' hne
      obtain ⟨rfl, rfl⟩ := hsame hemail' huser' hdomain'
      exact (hparts.1 hbad).resolve_left hne
    · intro v hv
      cases hv with
      | emailFormat hbad =>
          rw [hparts, or_iff_not_imp_left]
          exact hbad user domain hemail huser hdomain
    · by_cases hdot : '.' ∈ domain
      · rw [if_pos (List.contains_iff_mem.2 hdot)]
        refine .met ?_ .nil
        intro v hv
        cases hv with
        | emailDomain hemail' huser' hdomain' hnone =>
            rw [(hsame hemail' huser' hdomain').2] at hnone
            exact hnone hdot
      · rw [if_neg (mt List.contains_iff_mem.1 hdot)]
        exact .broken (.emailDomain hemail huser hdomain hdot)
  · next hother =>
    refine .broken (.emailFormat ?_)
    intro user domain hemail huser hdomain
    exact absurd (Text.splitAtChar_eq_pair_iff.2 ⟨hemail, huser, hdomain⟩) (hother user domain)

theorem finds_identity (s : Settings) :
    Finds s.Breaks [.name, .nameCharacters, .contactUrl, .email, .emailFormat, .emailDomain]
      s.identity.violation? := by
  have hchars : (!s.identity.name.toList.all fun c => Text.isAlphanumeric c || c == '-') = true ↔
      ∃ c ∈ s.identity.name.toList, Text.isAlphanumeric c = false ∧ c ≠ '-' := by simp
  refine .check ?_ ?_ fun _ => .check ?_ ?_ fun _ => ?_
  · intro hempty
    exact .name (String.isEmpty_iff.1 hempty)
  · intro v hv
    cases hv with
    | name hempty => exact String.isEmpty_iff.2 hempty
  · intro hbad
    obtain ⟨c, hc, halphanumeric, hhyphen⟩ := hchars.1 hbad
    exact .nameCharacters hc halphanumeric hhyphen
  · intro v hv
    cases hv with
    | nameCharacters hc halphanumeric hhyphen =>
        exact hchars.2 ⟨_, hc, halphanumeric, hhyphen⟩
  · cases hurl : Url.ofText s.identity.url with
    | error fault => exact .broken (.contactUrl hurl)
    | ok u =>
        refine .met ?_ s.finds_email
        intro v hv
        cases hv with
        | contactUrl hfault => exact nomatch hurl.symm.trans hfault

theorem finds_resultsPath (s : Settings) :
    Finds s.Breaks [.resultsPath] (resultsPathViolation? s.resultsPath) := by
  refine .check ?_ ?_ fun _ => .nil
  · intro hempty
    exact .resultsPath (String.isEmpty_iff.1 hempty)
  · intro v hv
    cases hv with
    | resultsPath hempty => exact String.isEmpty_iff.2 hempty

/-- Sources are gone through one by one; the names of those before are remembered as a set. -/
theorem finds_sources (front rest : List Source) (names : List String)
    (hsources : s.sources = front ++ rest)
    (hnames : ∀ name, name ∈ names ↔ name ∈ front.map Source.name) :
    Finds s.Breaks
      ((List.range' front.length rest.length).flatMap fun i => Source.demands.map (.source i))
      (validateSources s.pace.strictRules names rest).violation := by
  induction rest generalizing front names with
  | nil => exact .nil
  | cons source rest ih =>
      have hat : s.sources[front.length]? = some source := by simp [hsources]
      have hfront : s.sources.take front.length = front := by simp [hsources]
      have hhead : Finds s.Breaks (Source.demands.map (.source front.length))
          (source.violation? s.pace.strictRules names) := by
        refine (Source.finds_demands s.pace.strictRules hnames source).map ?_
        intro d v
        rw [breaks_source_iff hat, hfront]
      have hrest := ih (front ++ [source]) (source.name :: names)
        (by simp [hsources]) (by simp [hnames, or_comm])
      rw [List.length_append, List.length_singleton] at hrest
      have hall := hhead.append hrest
      rw [List.length_cons, List.range'_succ, List.flatMap_cons, validateSources]
      cases hfound : source.violation? s.pace.strictRules names with
      | some v =>
          rw [hfound] at hall
          exact hall
      | none =>
          rw [hfound] at hall
          exact hall

/-- Validation goes through the demands on settings in order. -/
theorem finds_demands (s : Settings) : Finds s.Breaks s.demands s.validate.violation := by
  have hsources : Finds s.Breaks
      (.someSource :: (List.range s.sources.length).flatMap fun i => Source.demands.map (.source i))
      (if s.sources.isEmpty then some .noSources
        else (validateSources s.pace.strictRules [] s.sources).violation) := by
    refine .check ?_ ?_ fun _ => ?_
    · intro hnone
      exact .someSource (List.isEmpty_iff.1 hnone)
    · intro v hv
      cases hv with
      | someSource hnone => exact List.isEmpty_iff.2 hnone
    · rw [List.range_eq_range']
      exact finds_sources [] s.sources [] rfl (by simp)
  have hfound : s.validate.violation = (s.pace.violation? <|> s.identity.violation? <|>
      resultsPathViolation? s.resultsPath <|>
      if s.sources.isEmpty then some .noSources
      else (validateSources s.pace.strictRules [] s.sources).violation) := by
    unfold validate sectionViolation?
    cases s.pace.violation? <;> cases s.identity.violation? <;>
      cases resultsPathViolation? s.resultsPath <;> cases s.sources <;> rfl
  rw [hfound]
  exact s.finds_pace.append (s.finds_identity.append (s.finds_resultsPath.append hsources))

/-! ## Settings as they should be -/

/-- Settings as they should be. -/
structure Documented (s : Settings) : Prop where
  workers : 1 ≤ s.pace.maxWorkers ∧ s.pace.maxWorkers ≤ 256
  timeout : 1 ≤ s.pace.timeoutSeconds
  name : s.identity.name ≠ "" ∧
    ∀ c ∈ s.identity.name.toList, Text.isAlphanumeric c = true ∨ c = '-'
  contactUrl : ∃ u, Url.ofText s.identity.url = .ok u
  contactEmail : IsEmail s.identity.email
  resultsPath : s.resultsPath ≠ ""
  someSource : s.sources ≠ []
  names : (s.sources.map Source.name).Nodup
  named : ∀ source ∈ s.sources, ∃ c ∈ source.name.toList, Text.isBlank c = false
  rootUrls : ∀ source ∈ s.sources, ∃ u, Url.ofText source.rootUrl = .ok u ∧
    (u.scheme = "http" ∨ u.scheme = "https") ∧ u.hasHost = true
  rules : ∀ source ∈ s.sources, ∃ rule, source.rule = some rule ∧
    (s.pace.strictRules = true → rule.problems = [])

theorem valid_iff_documented (s : Settings) : s.Valid ↔ s.Documented := by
  have hname : s.identity.name.toList.all (fun c => Text.isAlphanumeric c || c == '-') = true ↔
      ∀ c ∈ s.identity.name.toList, Text.isAlphanumeric c = true ∨ c = '-' := by simp
  have hnamed : ∀ source : Source, Text.trim source.name ≠ "" ↔
      ∃ c ∈ source.name.toList, Text.isBlank c = false := by
    intro source
    rw [ne_eq, Text.trim_eq_empty_iff]
    simp
  have hweb : ∀ u : Url, u.isWeb = true ↔ u.scheme = "http" ∨ u.scheme = "https" := by
    intro u
    simp [Url.isWeb]
  have hrule : ∀ source : Source,
      (source.rule.isSome = true ∧ (s.pace.strictRules = true → source.problems = [])) ↔
      ∃ rule, source.rule = some rule ∧ (s.pace.strictRules = true → rule.problems = []) := by
    intro source
    cases h : source.rule <;> simp [Source.problems, h]
  constructor
  · intro h
    constructor
    · exact ⟨h.pace.one_le_workers, h.pace.workers_le⟩
    · exact h.pace.one_le_timeout
    · exact ⟨h.identity.name_ne_empty, hname.1 h.identity.name⟩
    · exact h.identity.url
    · exact isEmail_iff.2 h.identity.email
    · exact h.resultsPath
    · exact h.sources_ne_nil
    · exact h.names
    · intro source hsource
      exact (hnamed source).1 (h.sources source hsource).name
    · intro source hsource
      simpa only [hweb] using (h.sources source hsource).rootUrl
    · intro source hsource
      have hvalid := h.sources source hsource
      exact (hrule source).1 ⟨hvalid.rule, hvalid.wellFormed⟩
  · intro h
    refine ⟨⟨h.workers.1, h.workers.2, h.timeout⟩, ?_, h.resultsPath, h.someSource, h.names, ?_⟩
    · exact ⟨h.name.1, hname.2 h.name.2, h.contactUrl, isEmail_iff.1 h.contactEmail⟩
    · intro source hsource
      obtain ⟨hsome, hproblems⟩ := (hrule source).2 (h.rules source hsource)
      refine ⟨(hnamed source).2 (h.named source hsource), ?_, hsome, hproblems⟩
      simpa only [hweb] using h.rootUrls source hsource

/-- Validation finds nothing wrong just with settings as they should be. In others it finds the
first demand that is broken: the earlier ones are met, whatever else is wrong further on. -/
theorem first_breach (s : Settings) :
    (s.validate.violation = none ↔ s.Documented) ∧
    ∀ v, s.validate.violation = some v ↔ ∃ before d after, s.demands = before ++ d :: after ∧
      s.Breaks d v ∧ ∀ e ∈ before, ∀ w, ¬s.Breaks e w := by
  constructor
  · rw [violation_validate_eq_none_iff, valid_iff_documented]
  · exact s.finds_demands.eq_some_iff fun d v w => Breaks.unique

/-- A name is asked for before an address, a path and a source, all of which are missing too. -/
example : ({ identity := ⟨"", "1.0", "", ""⟩, resultsPath := "" } : Settings).validate.violation =
    some .nameEmpty := rfl

end Settings

end Prospector
