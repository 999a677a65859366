import Prospector.Catalog.Basic
import Prospector.Json.Printer
import Prospector.Json.Reader

/-!
# Catalogs as text

A catalog is a JSON object with the member `sources`, whose items have the members `name` and
`product_links`. Of products only three members are kept; of listings and of the catalog all are,
those that are known first.

## Main definitions

* `Catalog.ofJson?`, `Catalog.toJson` : a catalog as a JSON value.
* `Catalog.ofText`, `Catalog.text` : a catalog as the content of a file.
-/

namespace Prospector

/-! ## From JSON -/

/-- A product from its three members. -/
def Product.ofParts? (link kind text : Option Json) : Option Product := do
  let link ← link.bind Json.string?
  let kind ← Json.optionalText? kind
  let text ← Json.optionalText? text
  some { link, kind, text }

/-- A product from an object, or from an array of its members in order. -/
def Product.ofJson? : Json → Option Product
  | .object ms =>
    ofParts? (Json.member? "link" ms) (Json.member? "type" ms) (Json.member? "text" ms)
  | .array items => if 3 < items.length then none else ofParts? items[0]? items[1]? items[2]?
  | _ => none

/-- The members of an object other than those with the given keys. -/
def otherMembers (known : List String) (members : List (String × Json)) : List (String × Json) :=
  members.filter fun m => !known.contains m.1

/-- The items of an array that may be missing. -/
def optionalItems? : Option Json → Option (List Json)
  | none => some []
  | some j => j.array?

/-- A listing from an object. -/
def Listing.ofJson? : Json → Option Listing
  | .object ms => do
    let name ← (Json.member? "name" ms).bind Json.string?
    let items ← optionalItems? (Json.member? "product_links" ms)
    let products ← items.mapM Product.ofJson?
    some { name, products, others := otherMembers ["name", "product_links"] ms }
  | _ => none

/-- A catalog from an object. -/
def Catalog.ofJson? : Json → Option Catalog
  | .object ms => do
    let items ← optionalItems? (Json.member? "sources" ms)
    let listings ← items.mapM Listing.ofJson?
    some { listings, others := otherMembers ["sources"] ms }
  | _ => none

/-! ## To JSON -/

/-- A product as a JSON value. -/
def Product.toJson (p : Product) : Json :=
  .object [("link", .string p.link), ("type", Json.ofOption (p.kind.map .string)),
    ("text", Json.ofOption (p.text.map .string))]

/-- A listing as a JSON value, the known members first. -/
def Listing.toJson (l : Listing) : Json :=
  .object ([("name", .string l.name), ("product_links", .array (l.products.map Product.toJson))] ++
    l.others)

/-- A catalog as a JSON value, the known member first. -/
def Catalog.toJson (c : Catalog) : Json :=
  .object (("sources", .array (c.listings.map Listing.toJson)) :: c.others)

/-! ## As text -/

namespace Catalog

/-- What a product may be in a text. -/
def productShape : Json.Shape :=
  .record
    [("link", true, .text), ("type", false, .nullable .text), ("text", false, .nullable .text)]
    false true

/-- What a listing may be in a text. -/
def listingShape : Json.Shape :=
  .record [("name", true, .text), ("product_links", false, .list productShape)] true false

/-- What a catalog may be in a text. -/
def shape : Json.Shape :=
  .record [("sources", false, .list listingShape)] true false

/-- The catalog that a text writes. -/
def ofText (s : String) : Except Json.ReadFault Catalog :=
  match Json.readAs shape s with
  | .error fault => .error fault
  | .ok j =>
    match ofJson? j with
    | some c => .ok c
    | none => .error .mismatch

/-- A catalog as text, with a line break at its end. -/
def text (c : Catalog) : String :=
  c.toJson.indented ++ "\n"

end Catalog

end Prospector
