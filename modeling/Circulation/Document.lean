/-
**Documents: rows of a resource as JSON with links.**

Every link is built from the address under which the service is reached.  The links of a page repeat
the query of the request with the number and the size of the page put in.

Main definitions:

* `Service` — a resource and the address it is served under;
* `Service.collectionUrl`, `Service.resourceUrl` — where a collection and a row are found;
* `queryText`, `Service.pageLink` — a query as a text, and the link to a page;
* `Service.resource`, `Service.single`, `Service.page` — the documents.
-/

import Circulation.Json.Printer
import Circulation.Page
import Circulation.Record
import Circulation.Schema.Column
import Circulation.Text.Percent

set_option relaxedAutoImplicit false
set_option autoImplicit false

namespace Circulation

/-! ### Queries as texts -/

/-- One parameter of a query, escaped. -/
def queryPair (p : String × String) : String :=
  Text.percentEncode p.1 ++ "=" ++ Text.percentEncode p.2

/-- The parameters of a query as a text. -/
def queryText (params : Dict String) : String := Text.joinWith "&" (params.toList.map queryPair)

/-- An address with the parameters of a query, if there are any. -/
def withQuery (url : String) (params : Dict String) : String :=
  if params.isEmpty then url else url ++ "?" ++ queryText params

/-- The parameters of a query with another page. -/
def withPage (params : Dict String) (number size : UInt32) : Dict String :=
  (params.insert Page.numberKey number.toNat.repr).insert Page.sizeKey size.toNat.repr

/-! ### Where things are found -/

/-- A resource and the address that it is served under. -/
structure Service where
  schema : Schema
  base : String

/-- A text without the slashes at its end. -/
def trimSlashes (s : String) : String :=
  String.ofList (s.toList.reverse.dropWhile (· == '/')).reverse

namespace Service

variable (s : Service)

/-- Where a collection is found. -/
def collectionUrl : String := trimSlashes s.base ++ "/library/" ++ s.schema.collection

/-- Where a row is found. -/
def resourceUrl (id : String) : String := s.collectionUrl ++ "/" ++ Text.percentEncode id

/-- The link to a page of the rows that a query asks for. -/
def pageLink (params : Dict String) (number size : UInt32) : String :=
  withQuery s.collectionUrl (withPage params number size)

/-! ### Documents -/

/-- The identifier of a row as a text. -/
def idText : Json → String
  | .str s => s
  | .null => ""
  | v => v.compact

/-- The identifier of a record, empty if there is none. -/
def idOf (r : Record) : String := idText (Record.valueOf r s.schema.identifier)

/-- A row: its identifier, all other values as attributes, and where it is found. -/
def resource (r : Record) : Json :=
  .object [
    ("type", .str s.schema.resource),
    ("id", .str (s.idOf r)),
    ("attributes", .ofDict (r.erase s.schema.identifier)),
    ("links", .object [("self", .str (s.resourceUrl (s.idOf r)))])]

/-- The document of one row. -/
def single (r : Record) (link : String) : Json :=
  .object [("links", .object [("self", .str link)]), ("data", s.resource r)]

/-- The links of a page: to itself, the first and the last page, and its neighbours. -/
def links (p : PageOf Record) (params : Dict String) : List (String × Json) :=
  let link (number : UInt32) : Json := .str (s.pageLink params number p.page.size)
  [("self", .str (withQuery s.collectionUrl params)), ("first", link 1),
    ("last", link p.totalPages)] ++
  (if p.hasPrevious then [("prev", link (p.page.number - 1))] else []) ++
  (if p.hasNext then [("next", link (p.page.number + 1))] else [])

/-- The document of a page. -/
def page (p : PageOf Record) (params : Dict String) : Json :=
  .object [
    ("links", .object (s.links p params)),
    ("meta", .object [
      ("totalResults", .ofInt p.total.toInt),
      ("totalPages", .ofInt p.totalPages.toNat),
      ("currentPageNumber", .ofInt p.page.number.toNat),
      ("currentPageSize", .ofInt p.page.size.toNat)]),
    ("data", .arr (p.items.map s.resource))]

end Service

/-- The rows of a page and its numbers, without links. -/
def PageOf.toJson (p : PageOf Record) : Json :=
  .object [
    ("items", .arr (p.items.map Json.ofDict)),
    ("totalResults", .ofInt p.total.toInt),
    ("pageNumber", .ofInt p.page.number.toNat),
    ("pageSize", .ofInt p.page.size.toNat)]

end Circulation
