import Prospector.Crawl.Harvest
import Prospector.Proofs.Crawl.Confluence
import Prospector.Proofs.Crawl.Link

/-!
# Requests of a crawl

What a crawl asks for, if no answer sends a request elsewhere. A page is handed out under a text,
and what is asked for is the address of the URL that the text is read as: its fragment, its user
name and its password are left out. The texts are those of canonical URLs, which are read back, so a
text stands for one URL, and as no text is handed out twice, no URL is asked for twice.

A URL here is one with all its parts. Links that differ in the parts left out are different pages to
a crawl, and it asks for them one by one, although they name the same address.

## Main definitions

* `Web.asked?`, `Session.asked` : the URL asked for under a text, and those of a crawl.

## Main results

* `Url.written_eq_of_address` : the address of a URL and the parts left out make up its text.
* `Site.Chain.eq_written` : the pages of a chain of links are handed out under the texts of
  canonical URLs.
* `Session.asked_once` : a crawl asks for no URL twice.
* `Session.not_nodup_requests_echo` : a crawl asks for an address again under another fragment and
  under a user name.
-/

namespace Prospector

/-! ## Addresses -/

namespace Url

/-- A user name and a password as they stand before a host. -/
def userText (user : String) (password : Option String) : String :=
  if (user ++ part ":" password).isEmpty then "" else user ++ part ":" password ++ "@"

theorem Authority.written_eq (a : Authority) :
    a.written = userText a.user a.password ++ a.bare.written := by
  obtain ⟨user, password, host, port⟩ := a
  cases password <;> simp [written, bare, userText, part, String.append_assoc]

/-- The text of a URL is its address with the user name and the password put in, and the fragment
behind it. -/
theorem exists_address_eq {u : Url} {a : Authority} (h : u.authority = some a) :
    ∃ rest, u.address = u.scheme ++ ("://" ++ rest) ∧
      u.written = u.scheme ++ ("://" ++ (userText a.user a.password ++ rest)) ++
        part "#" u.fragment := by
  have hslashes : ∀ s : String, ":" ++ ("//" ++ s) = "://" ++ s := fun s =>
    (String.append_assoc ..).symm
  refine ⟨a.bare.written ++ u.path.written ++ part "?" u.query, ?_, ?_⟩
  · simp [address, resource, h, String.append_assoc, hslashes]
  · simp [written, resource, h, a.written_eq, String.append_assoc, hslashes]

/-- The scheme of a URL of the web is what stands before the first colon. -/
theorem takeWhile_scheme {u : Url} (h : u.isWeb = true) (rest : String) :
    (u.scheme ++ ("://" ++ rest)).toList.takeWhile (· != ':') = u.scheme.toList := by
  simp only [isWeb, Bool.or_eq_true, decide_eq_true_eq] at h
  rcases h with h | h <;> simp [h]

theorem scheme_eq_of_append {u v : Url} (hu : u.isWeb = true) (hv : v.isWeb = true)
    {rest other : String} (h : u.scheme ++ ("://" ++ rest) = v.scheme ++ ("://" ++ other)) :
    u.scheme = v.scheme ∧ rest = other := by
  have hscheme : u.scheme = v.scheme := by
    rw [← String.toList_inj, ← takeWhile_scheme hu rest, h, takeWhile_scheme hv other]
  rw [hscheme, String.append_right_inj, String.append_right_inj] at h
  exact ⟨hscheme, h⟩

/-- The address of a URL of the web and the parts left out make up its text. -/
theorem written_eq_of_address {u v : Url} (hu : u.isWeb = true) (hv : v.isWeb = true)
    (hauthority : u.authority.isSome = true) (haddress : u.address = v.address)
    (huser : u.userInfo = v.userInfo) (hfragment : u.fragment = v.fragment) :
    u.written = v.written := by
  obtain ⟨a, ha⟩ := Option.isSome_iff_exists.1 hauthority
  obtain ⟨b, hb, hinfo⟩ : ∃ b, v.authority = some b ∧ (b.user, b.password) =
      (a.user, a.password) := by
    rw [userInfo, ha, userInfo] at huser
    exact Option.map_eq_some_iff.1 huser.symm
  obtain ⟨hname, hpassword⟩ := Prod.mk.inj hinfo
  obtain ⟨rest, hrest, hwritten⟩ := exists_address_eq ha
  obtain ⟨other, hother, hwritten'⟩ := exists_address_eq hb
  obtain ⟨hscheme, rfl⟩ := scheme_eq_of_append hu hv (hrest.symm.trans (haddress.trans hother))
  rw [hwritten, hwritten', hscheme, hname, hpassword, hfragment]

end Url

namespace Web

/-- The URL that a server is asked for under a text. -/
def asked? (w : Web) (url : String) : Option Url :=
  (Url.ofText url).toOption.filter fun u => isRequestable u && w.accepts u

theorem asked?_eq_some {w : Web} {url : String} {u : Url} (h : w.asked? url = some u) :
    Url.ofText url = .ok u ∧ u.isWeb = true ∧ isRequestable u = true ∧ w.accepts u = true := by
  obtain ⟨hread, hasked⟩ := Option.filter_eq_some_iff.1 h
  obtain ⟨hrequestable, haccepts⟩ := Bool.and_eq_true_iff.1 hasked
  refine ⟨?_, (Bool.and_eq_true_iff.1 hrequestable).1, hrequestable, haccepts⟩
  cases hurl : Url.ofText url with
  | error fault =>
      rw [hurl] at hread
      exact nomatch hread
  | ok u' =>
      rw [hurl] at hread
      exact congrArg Except.ok (Option.some.inj hread)

theorem isSome_authority_of_isRequestable {u : Url} (h : isRequestable u = true) :
    u.authority.isSome = true := by
  cases hauthority : u.authority with
  | some a => rfl
  | none => simp [isRequestable, hauthority] at h

/-- A request that no answer sends elsewhere is the only one of a visit. -/
theorem requests_fetchFrom {w : Web} {u : Url} {credentials : Option String}
    (hdirect : (w.reply ⟨u.address, credentials⟩).target? u = none) (budget : Nat) :
    (w.fetchFrom budget credentials u).requests =
      if isRequestable u && w.accepts u then [u.address] else [] := by
  unfold fetchFrom
  cases hrequestable : isRequestable u with
  | false => rfl
  | true =>
      cases haccepts : w.accepts u with
      | false => rfl
      | true =>
          simp only [Bool.not_true, Bool.false_eq_true, if_false, Bool.and_true, if_true, hdirect]
          split <;> rfl

/-- Whether no answer of a server sends a request elsewhere. -/
def IsDirect (w : Web) : Prop :=
  ∀ (u : Url) (credentials : Option String), (w.reply ⟨u.address, credentials⟩).target? u = none

/-- A visit makes one request for the address of the URL asked for, if there is one and no answer
sends it elsewhere. -/
theorem requests_fetch {w : Web} (hdirect : w.IsDirect) (url : String) :
    (w.fetch url).requests = ((w.asked? url).map Url.address).toList := by
  unfold fetch asked?
  cases Url.ofText url with
  | error fault => rfl
  | ok u =>
      simp only [requests_fetchFrom (hdirect u _)]
      simp only [Except.toOption, Option.filter]
      split <;> rfl

/-- A page that was fetched was asked for. -/
theorem exists_asked_of_site {w : Web} {url text : String} (h : w.site url = .page text) :
    ∃ u, w.asked? url = some u := by
  unfold site fetch at h
  cases hurl : Url.ofText url with
  | error fault =>
      rw [hurl] at h
      exact nomatch h
  | ok u =>
      refine ⟨u, ?_⟩
      rw [hurl] at h
      unfold asked?
      rw [hurl]
      unfold fetchFrom at h
      cases hrequestable : isRequestable u with
      | false => simp [hrequestable] at h
      | true =>
          cases haccepts : w.accepts u with
          | false => simp [hrequestable, haccepts] at h
          | true => simp [Except.toOption, Option.filter, hrequestable, haccepts]

end Web

/-! ## Texts of canonical URLs -/

/-- Whether a text that is read as a URL of the web is what that URL is written as. -/
def IsOwnText (url : String) : Prop :=
  ∀ u, Url.ofText url = .ok u → u.isWeb = true → u.Canonical ∧ u.written = url

theorem Url.isOwnText_written_of_ofText {s : String} {u : Url} (h : Url.ofText s = .ok u) :
    IsOwnText u.written := by
  intro u' hread hweb
  have hscheme := Url.scheme_of_ofText_written h hread
  have hcanonical : u.Canonical := by
    refine Url.canonical_of_ofText h ?_
    rw [isWeb, ← hscheme]
    exact hweb
  obtain rfl := Url.ofText_written hcanonical hread
  exact ⟨hcanonical, rfl⟩

/-- The pages of a chain of links are handed out under the texts that their URLs are written as. -/
theorem Site.Chain.isOwnText {w : Web} {s : String} {start : Url}
    (hstart : Url.ofText s = .ok start) {d : Nat} {url : String}
    (h : w.site.Chain start.written d url) : IsOwnText url := by
  induction h with
  | start => exact Url.isOwnText_written_of_ofText hstart
  | @link d page url _ hlink ih =>
      obtain ⟨text, hpage, hurl⟩ := hlink
      obtain ⟨p, hp⟩ := Web.exists_asked_of_site hpage
      obtain ⟨hread, hweb, -, -⟩ := Web.asked?_eq_some hp
      obtain ⟨hcanonical, -⟩ := ih p hread hweb
      simp only [Outcome.linksFrom, hread] at hurl
      obtain ⟨u, hu, rfl⟩ := List.mem_map.1 hurl
      have htarget := hcanonical.of_mem_targets hu
      intro u' hread' _
      obtain rfl := Url.ofText_written htarget hread'
      exact ⟨htarget, rfl⟩

namespace Session

/-- The URLs that servers are asked for in a crawl, in the order in which their pages were handed
out. -/
def asked (w : Web) (s : Session) : List Url :=
  (s.dispatched.map Entry.url).filterMap w.asked?

theorem requests_eq {w : Web} (hdirect : w.IsDirect) (s : Session) :
    s.requests w = (s.asked w).map Url.address := by
  have hurls : s.requests w =
      (s.dispatched.map Entry.url).flatMap fun url => (w.fetch url).requests :=
    (List.flatMap_map Entry.url (fun url => (w.fetch url).requests) s.dispatched).symm
  rw [hurls, asked]
  induction s.dispatched.map Entry.url with
  | nil => rfl
  | cons url urls ih =>
      rw [List.flatMap_cons, ih, Web.requests_fetch hdirect]
      cases hasked : w.asked? url with
      | none => rw [List.filterMap_cons_none hasked]; rfl
      | some u => rw [List.filterMap_cons_some hasked]; rfl

section Requests

variable {w : Web} {rule : Rule} {text : String} {start : Url} {limits : Limits} {s : Session}

/-- The URLs asked for are written as the texts under which their pages were handed out. -/
theorem Reached.written_asked (h : Reached w.site rule start limits s)
    (hstart : Url.ofText text = .ok start) :
    ((s.asked w).map Url.written).Sublist (s.dispatched.map Entry.url) := by
  have hown : ∀ url ∈ s.dispatched.map Entry.url, IsOwnText url := by
    intro url hurl
    obtain ⟨e, he, rfl⟩ := List.mem_map.1 hurl
    exact (h.chain e (List.mem_append_left _ he)).isOwnText hstart
  unfold asked
  generalize s.dispatched.map Entry.url = urls at *
  induction urls with
  | nil => exact List.Sublist.refl _
  | cons url urls ih =>
      have hrest := ih fun other hother => hown other (List.mem_cons_of_mem url hother)
      cases hasked : w.asked? url with
      | none =>
          rw [List.filterMap_cons_none hasked]
          exact hrest.trans (List.sublist_cons_self _ _)
      | some u =>
          obtain ⟨hread, hweb, -, -⟩ := Web.asked?_eq_some hasked
          rw [List.filterMap_cons_some hasked, List.map_cons,
            (hown url List.mem_cons_self u hread hweb).2]
          exact hrest.cons_cons _

/-- A finding is one about a URL that was asked for. -/
theorem Reached.exists_asked_of_finding (h : Reached w.site rule start limits s)
    (hstart : Url.ofText text = .ok start) {m : String × Finding} (hm : m ∈ s.findings.byUrl) :
    ∃ u ∈ s.asked w, u.written = m.1 := by
  obtain ⟨⟨e, he, hurl⟩, page, c, hpage, -, -⟩ := h.findings m.1 m.2 hm
  obtain ⟨u, hu⟩ := Web.exists_asked_of_site hpage
  obtain ⟨hread, hweb, -, -⟩ := Web.asked?_eq_some hu
  have hown := (h.chain e (List.mem_append_left _ he)).isOwnText hstart
  refine ⟨u, ?_, (hown u (hurl ▸ hread) hweb).2.trans hurl⟩
  exact List.mem_filterMap.2 ⟨m.1, hurl ▸ List.mem_map_of_mem he, hu⟩

/-- The URLs asked for can be told apart by their addresses and the parts left out. -/
theorem Reached.nodup_asked (h : Reached w.site rule start limits s)
    (hstart : Url.ofText text = .ok start) :
    ((s.asked w).map fun u => (u.address, u.userInfo, u.fragment)).Nodup := by
  have hnodup := h.orderly.nodup_dispatched.sublist (h.written_asked hstart)
  have hasked : ∀ u ∈ s.asked w, u.isWeb = true ∧ u.authority.isSome = true := by
    intro u hu
    obtain ⟨url, -, hurl⟩ := List.mem_filterMap.1 hu
    obtain ⟨-, hweb, hrequestable, -⟩ := Web.asked?_eq_some hurl
    exact ⟨hweb, Web.isSome_authority_of_isRequestable hrequestable⟩
  refine List.Nodup.map_on (fun u hu v hv hsame => ?_) hnodup.of_map
  obtain ⟨haddress, hparts⟩ := Prod.mk.inj hsame
  obtain ⟨huser, hfragment⟩ := Prod.mk.inj hparts
  obtain ⟨huWeb, hauthority⟩ := hasked u hu
  exact List.inj_on_of_nodup_map hnodup hu hv
    (Url.written_eq_of_address huWeb (hasked v hv).1 hauthority haddress huser hfragment)

/-- Let no answer of a site send a request elsewhere. Whatever the rule, the limits, the start and
the order in which visits end, and wherever the crawl is interrupted: its requests are for the
addresses of the URLs asked for; no URL is asked for twice, so requests for one address come from
links that differ in their fragments or in their user names and passwords; each URL asked for is
written as a text of its own that was handed out; and there is at most one finding about each. -/
theorem asked_once (w : Web) (hdirect : w.IsDirect) (rule : Rule) (text : String) (start : Url)
    (hstart : Url.ofText text = .ok start) (limits : Limits) (order : Order)
    (stop : Session → Bool) :
    let s := ((new start limits).runUntil w.site rule order stop).2
    s.requests w = (s.asked w).map Url.address ∧
      ((s.asked w).map fun u => (u.address, u.userInfo, u.fragment)).Nodup ∧
      ((s.asked w).map Url.written).Sublist (s.dispatched.map Entry.url) ∧
      (s.findings.byUrl.map Prod.fst).Nodup ∧
      ∀ m ∈ s.findings.byUrl, ∃ u ∈ s.asked w, u.written = m.1 := by
  intro s
  have hreached : Reached w.site rule start limits s := Reached.new.runUntil order stop
  refine ⟨requests_eq hdirect s, hreached.nodup_asked hstart, hreached.written_asked hstart, ?_,
    fun m => hreached.exists_asked_of_finding hstart⟩
  have hsorted := hreached.sorted_findings
  refine List.Pairwise.imp (fun {a b} hlt => ?_) (List.pairwise_map.2 hsorted)
  exact hlt.ne

end Requests

/-! ## An echo -/

/-- A web with one server, whose home page names a page under two fragments and a user name. -/
def echo : Web where
  accepts := fun _ => true
  reply := fun request =>
    if request.address = "http://[::1]/" then
      { body := Text.utf8 ("<a href=?a#one><a href=?a#two><a href=?a#one><a href=\x22?b\x22>" ++
          "<a href=//tea@[::1]/?a#one>") }
    else { body := Text.utf8 "<p>" }

theorem isDirect_echo : echo.IsDirect := by
  intro u credentials
  unfold echo
  simp only
  split <;> rfl

/-- The page named in three ways is requested three times. -/
theorem requests_echo :
    ((new detourHome ⟨10, 3, 4⟩).run echo.site (.oneOf []) inTurn).requests echo =
      ["http://[::1]/", "http://[::1]/?a", "http://[::1]/?a", "http://[::1]/?b",
        "http://[::1]/?a"] := by
  have hcourse :
      let s := course echo.site (.oneOf []) inTurn 10 (new detourHome ⟨10, 3, 4⟩)
      s.isFinished = true ∧ s.requests echo =
        ["http://[::1]/", "http://[::1]/?a", "http://[::1]/?a", "http://[::1]/?b",
        "http://[::1]/?a"] := by
    decide +kernel
  rw [run_eq_course 10 hcourse.1]
  exact hcourse.2

/-- A crawl asks for an address again that links name under another fragment or a user name,
although no answer sends a request elsewhere. -/
theorem not_nodup_requests_echo :
    echo.IsDirect ∧
      ¬(((new detourHome ⟨10, 3, 4⟩).run echo.site (.oneOf []) inTurn).requests echo).Nodup := by
  rw [requests_echo]
  exact ⟨isDirect_echo, by decide⟩

/-- With all its parts no URL of the echo is asked for twice, and five are. -/
theorem asked_once_echo :
    let s := ((new detourHome ⟨10, 3, 4⟩).runUntil echo.site (.oneOf []) inTurn fun _ => false).2
    ((s.asked echo).map fun u => (u.address, u.userInfo, u.fragment)).Nodup ∧
      (s.asked echo).length = 5 := by
  intro s
  have hhome : Url.ofText "http://[::1]/" = .ok detourHome := by decide +kernel
  have honce := asked_once echo isDirect_echo (.oneOf []) "http://[::1]/" detourHome hhome
    ⟨10, 3, 4⟩ inTurn fun _ => false
  refine ⟨honce.2.1, ?_⟩
  have hlength := congrArg List.length honce.1
  rw [List.length_map] at hlength
  exact hlength.symm.trans (congrArg List.length requests_echo)

end Session

end Prospector
