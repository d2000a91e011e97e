/-!
# Kinds of host entities

A text can refer to entities of its host by number. Each kind of entity has a
name for messages, a collection under which its members are found and a label.

## Main definitions

* `EntityKind`, `EntityKind.singular`, `plural`, `label`, `view`.
-/

namespace TexMarkup

/-- The kinds of entity that a text can refer to. -/
inductive EntityKind where
  | link
  | tag
  | folder
  /-- A folder, shown with the bookmarks in it. -/
  | bookmarksFolder
  | forum
  | keyword
  | note
  deriving DecidableEq, Repr, Inhabited

namespace EntityKind

/-- The name of one entity, as messages use it. -/
def singular : EntityKind → String
  | link => "link"
  | tag => "tag"
  | folder | bookmarksFolder => "folder"
  | forum => "forum"
  | keyword => "keyword"
  | note => "note"

/-- The name of the collection, as addresses use it. -/
def plural : EntityKind → String
  | link => "links"
  | tag => "tags"
  | folder | bookmarksFolder => "folders"
  | forum => "forums"
  | keyword => "keywords"
  | note => "notes"

/-- The name of one entity, as the text of a link uses it. -/
def label : EntityKind → String
  | link => "Link"
  | tag => "Tag"
  | folder | bookmarksFolder => "Folder"
  | forum => "Forum"
  | keyword => "Keyword"
  | note => "Note"

/-- What follows the number in the address of an entity. -/
def view : EntityKind → String
  | bookmarksFolder => "/bookmarks"
  | _ => ""

end EntityKind

end TexMarkup
