import Prospector.Document
import Prospector.Url.Reader

/-!
# Links to follow

Which anchors of a page lead on. An anchor leads on when its reference, letter case left aside,
contains the path of the page that it stands on; on the page at the root every anchor does.
References are read relative to the root of the page's server, whatever directory the page is in.

## Main definitions

* `Crawl.sectionPaths` : the forms of a page's path, one of which a reference has to contain.
* `Crawl.links` : the addresses of the pages that a page leads on to.
-/

namespace Prospector.Crawl

/-- The forms of a page's path that references are searched for: in lower case, as written and,
where it differs, with its percent encoding undone. The root has the empty path. -/
def sectionPaths (page : Url) : List String :=
  let path := page.path.written
  if path = "/" then [""]
  else
    let plain := Text.lower path
    let decoded := (Text.decodeUtf8? (Text.percentDecode path.toList)).map Text.lower
    plain :: (decoded.filter fun d => d != plain).toList

/-- Whether a reference contains one of the given paths, letter case left aside. -/
def isWithin (paths : List String) (href : String) : Bool :=
  let href := Text.lower href
  paths.any fun path => Text.contains href path

/-- The page that a reference leads to, if it is one of the web. -/
def target? (root : Url) (href : String) : Option Url :=
  match root.join (Text.trim href) with
  | .ok u => if u.isWeb then some u else none
  | .error _ => none

/-- The pages that a document at a URL leads on to, in document order, as often as anchors name
them. -/
def targets (d : Document) (page : Url) : List Url :=
  match page.root? with
  | none => []
  | some root =>
    ((d.elements "a").filterMap fun anchor => anchor.attr "href")
      |>.filter (isWithin (sectionPaths page))
      |>.filterMap (target? root)

/-- The addresses of the pages that a document at a URL leads on to. -/
def links (d : Document) (page : Url) : List String :=
  (targets d page).map Url.written

end Prospector.Crawl
