/-
**The catalogue: books, members and borrows.**

Main definitions:

* `books`, `members`, `borrows` — the three schemas;
* `catalogue` — all of them;
* `Schema.ofCollection?` — the schema of a collection.
-/

import Circulation.Schema.Column

set_option relaxedAutoImplicit false
set_option autoImplicit false

namespace Circulation

/-! ### Kinds of columns -/

namespace Column

/-- Free text, stored in small letters. -/
def free (name : String) : Column := ⟨name, .text, .lower⟩

/-- The code of a state or a country, stored in capitals. -/
def code (name : String) : Column := ⟨name, .text, .upper⟩

/-- A text that is stored as it is given. -/
def verbatim (name : String) : Column := ⟨name, .text, .kept⟩

/-- A whole number. -/
def integer (name : String) : Column := ⟨name, .integer, .kept⟩

/-- A truth value. -/
def boolean (name : String) : Column := ⟨name, .boolean, .kept⟩

/-- A day. -/
def date (name : String) : Column := ⟨name, .date, .kept⟩

end Column

/-! ### The schemas -/

/-- The books of the library. -/
def books : Schema where
  resource := "book"
  collection := "books"
  table := "library_api_books"
  primaryKey := "book_id"
  columns := [
    .integer "book_id",
    .free "title",
    .free "author",
    .integer "publication_year",
    .verbatim "isbn",
    .free "genre",
    .free "description",
    .boolean "available"]
  required := ["title", "author"]
  initial := [⟨"available", .bool true⟩]
  parents := []

/-- The members of the library. -/
def members : Schema where
  resource := "member"
  collection := "members"
  table := "library_api_members"
  primaryKey := "member_id"
  columns := [
    .integer "member_id",
    .free "first_name",
    .free "last_name",
    .free "email",
    .free "address",
    .free "city",
    .code "state",
    .code "country",
    .verbatim "phone_number",
    .free "status"]
  required := ["first_name", "last_name", "email"]
  initial := [⟨"status", .text "active"⟩]
  parents := []

/-- Which member has borrowed which book. -/
def borrows : Schema where
  resource := "borrow"
  collection := "borrows"
  table := "library_api_borrows"
  primaryKey := "borrow_id"
  columns := [
    .integer "borrow_id",
    .integer "book_id",
    .integer "member_id",
    .date "borrow_date",
    .date "due_date",
    .date "return_date",
    .free "status"]
  required := ["book_id", "member_id", "due_date"]
  initial := [⟨"status", .text "ongoing"⟩, ⟨"borrow_date", .today⟩]
  parents := [⟨"book_id", "book"⟩, ⟨"member_id", "member"⟩]

/-- Every schema there is. -/
def catalogue : List Schema := [books, members, borrows]

/-- The schema of a collection. -/
def Schema.ofCollection? (collection : String) : Option Schema :=
  catalogue.find? fun s => s.collection == collection

end Circulation
