import Prospector.Crawl.Finding

/-!
# The catalog

Product pages by source, in the order in which sources were first saved. A catalog keeps members
that it does not know, and a new list of products for a source replaces only its list of products.

## Main definitions

* `Product`, `Listing`, `Catalog` : a product page, those of a source, those of all sources.
* `Catalog.find?`, `Catalog.update` : the catalog as a map from names to listings.
* `Listing.ofFindings` : the product pages that a crawl found.
-/

namespace Prospector

/-- A product page. -/
structure Product where
  link : String
  kind : Option String := none
  text : Option String := none
  deriving DecidableEq, Repr, Inhabited

/-- The product pages of a source. -/
structure Listing where
  name : String
  products : List Product := []
  /-- Members that are kept as they are. -/
  others : List (String × Json) := []
  deriving Repr, Inhabited, BEq

/-- The product pages of all sources. -/
structure Catalog where
  listings : List Listing := []
  /-- Members that are kept as they are. -/
  others : List (String × Json) := []
  deriving Repr, Inhabited, BEq

/-- The products among findings, in the order of their addresses. -/
def Findings.products (fs : Findings) : List Product :=
  (fs.byUrl.filter fun m => m.2.isProduct).map fun m =>
    { link := m.1, kind := m.2.kind, text := m.2.text }

/-- The product pages that a crawl of a source found. -/
def Listing.ofFindings (name : String) (fs : Findings) : Listing :=
  { name, products := fs.products }

namespace Catalog

/-- The first listing with a name. -/
def find? (c : Catalog) (name : String) : Option Listing :=
  c.listings.find? fun l => l.name == name

/-- Listings in which the products of the first one with the same name are replaced; a listing of
another name comes to the end. -/
def updateListings (l : Listing) : List Listing → List Listing
  | [] => [l]
  | old :: rest =>
    if old.name = l.name then { old with products := l.products } :: rest
    else old :: updateListings l rest

/-- The catalog with the products of a listing. -/
def update (c : Catalog) (l : Listing) : Catalog :=
  { c with listings := updateListings l c.listings }

end Catalog

end Prospector
