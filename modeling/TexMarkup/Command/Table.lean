import TexMarkup.Command.Handler
import TexMarkup.Command.Literal

/-!
# The table of commands

Every command is found under one or more names. An underscore in a name counts
as a hyphen; otherwise names are compared as they are, so that `ol-A` and `ol-a`
are two commands.

## Main definitions

* `commandTable`: all names with their handlers.
* `normalizeName`, `lookupCommand`, `isKnownCommand`.
* `commandNames`: all names in alphabetical order.
-/

namespace TexMarkup

/-- Commands that format text, and the parts of lists and tables. -/
def wrapCommands : List (List String × Handler) :=
  [(["b", "bold", "textbf"], .wrap "b"),
    (["i", "it", "italic", "textit"], .wrap "i"),
    (["u", "underline"], .wrap "u"),
    (["del", "s", "strike", "strikethrough", "strikeout"], .wrap "del"),
    (["tt", "texttt", "teletype", "typewriter"], .wrap "tt"),
    (["sub", "subscript"], .wrap "sub"),
    (["sup", "superscript"], .wrap "sup"),
    (["small"], .wrap "small"), (["big"], .wrap "big"), (["span"], .wrap "span"),
    (["h1"], .wrap "h1"), (["h2"], .wrap "h2"), (["h3"], .wrap "h3"),
    (["h4"], .wrap "h4"), (["h5"], .wrap "h5"), (["h6"], .wrap "h6"),
    (["itemize", "ul"], .wrap "ul"),
    (["enumerate", "ol"], .wrap "ol"),
    (["item", "li"], .wrap "li"),
    (["table"], .wrap "table"),
    (["tr", "table-row"], .wrap "tr"),
    (["th", "table-header"], .wrap "th"),
    (["td", "table-data", "table-cell"], .wrap "td")]

/-- An unordered list with the given marks. -/
def bulletList (marks : String) : Handler :=
  .wrapWith "ul" ("style=\"list-style-type: " ++ marks ++ ";\"")

/-- An ordered list with the given numbering. -/
def numberedList (numbering : String) : Handler :=
  .wrapWith "ol" ("type=\"" ++ numbering ++ "\"")

/-- Lists with a choice of marks or numbering. -/
def listCommands : List (List String × Handler) :=
  [(["itemize-disc", "ul-disc", "itemize-disk", "ul-disk"], bulletList "disc"),
    (["itemize-circle", "ul-circle"], bulletList "circle"),
    (["itemize-square", "ul-square"], bulletList "square"),
    (["itemize-none", "ul-none"], bulletList "none"),
    (["enumerate-numeric", "ol-numeric", "enumerate-1", "ol-1"], numberedList "1"),
    (["enumerate-uppercase", "ol-uppercase", "enumerate-upcase", "ol-upcase", "enumerate-A",
      "ol-A"], numberedList "A"),
    (["enumerate-lowercase", "ol-lowercase", "enumerate-downcase", "ol-downcase", "enumerate-a",
      "ol-a"], numberedList "a"),
    (["enumerate-roman-uppercase", "ol-roman-uppercase", "enumerate-roman-upcase",
      "ol-roman-upcase", "enumerate-I", "ol-I"], numberedList "I"),
    (["enumerate-roman-lowercase", "ol-roman-lowercase", "enumerate-roman-downcase",
      "ol-roman-downcase", "enumerate-i", "ol-i"], numberedList "i")]

/-- Literal commands under all their names. -/
def literalCommands : List (List String × Handler) :=
  (literals ++ literalAliases).map fun (name, _) => ([name], .literal ((literal? name).getD ""))

/-- Commands that compute. -/
def numberCommands : List (List String × Handler) :=
  [(["pi"], .constant .pi), (["e"], .constant .naturalBase),
    (["+"], .arithmetic .add), (["-"], .arithmetic .subtract), (["*"], .arithmetic .multiply),
    (["/"], .arithmetic .divide), (["%"], .arithmetic .modulo), (["^", "**"], .arithmetic .power),
    (["sin"], .function .sin), (["cos"], .function .cos), (["tan"], .function .tan),
    (["asin"], .function .asin), (["acos"], .function .acos), (["atan"], .function .atan),
    (["sinh"], .function .sinh), (["cosh"], .function .cosh), (["tanh"], .function .tanh),
    (["asinh"], .function .asinh), (["acosh"], .function .acosh), (["atanh"], .function .atanh),
    (["erf"], .function .erf), (["erfc"], .function .erfc), (["gamma"], .function .gamma),
    (["lgamma"], .function .logGamma), (["sqrt"], .function .sqrt), (["ln"], .function .ln),
    (["ld", "log2"], .function .log2), (["log10"], .function .log10), (["log"], .function .log),
    (["ldexp"], .function .scale), (["hypot"], .function .hypot),
    (["d2r", "deg->rad", "degrees->radians"], .function .toRadians),
    (["r2d", "rad->deg", "radians->degrees"], .function .toDegrees),
    (["%of", "percent-of"], .percent .of), (["+%"], .percent .plus), (["-%"], .percent .minus),
    (["%t"], .percent .ofTotal),
    (["=", "==", "eq"], .compare .equal), (["!=", "/=", "ne"], .compare .notEqual),
    (["<", "lt"], .compare .less), (["<=", "le"], .compare .lessEqual),
    ([">", "gt"], .compare .greater), ([">=", "ge"], .compare .greaterEqual)]

/-- Commands on truth values, and commands that choose between clauses. -/
def logicCommands : List (List String × Handler) :=
  [(["and"], .logic .and), (["or"], .logic .or), (["xor"], .logic .xor),
    (["nand"], .logic .nand), (["nor"], .logic .nor), (["xnor"], .logic .xnor),
    (["not"], .logic .not), (["if"], .control .branch), (["unless"], .control .unless),
    (["when"], .control .when), (["cond"], .control .cond), (["case"], .control .case),
    (["comment"], .control .comment), (["prog1"], .control .first), (["progn"], .control .last)]

/-- Links, images and references to the host. -/
def referenceCommands : List (List String × Handler) :=
  [(["link", "href", "url"], .link), (["image", "img"], .image), (["mailto", "email"], .mailto),
    (["link-id"], .entity .link), (["tag-id"], .entity .tag), (["folder-id"], .entity .folder),
    (["forum-id"], .entity .forum), (["keyword-id"], .entity .keyword),
    (["note-id"], .entity .note),
    (["bookmarks-folder-id", "bookmark-folder-id"], .entity .bookmarksFolder),
    (["user", "user-id"], .user)]

/-- All commands, each with every name under which it is found. -/
def commandGroups : List (List String × Handler) :=
  wrapCommands ++ listCommands ++ literalCommands ++ [(["nbsp"], .nbsp)] ++ numberCommands ++
    logicCommands ++ referenceCommands

/-- All names with their handlers. -/
def commandTable : List (String × Handler) :=
  commandGroups.flatMap fun (names, handler) => names.map fun name => (name, handler)

/-- The name under which a command is looked up. -/
def normalizeName (name : String) : String :=
  String.ofList (name.toList.map fun c => if c = '_' then '-' else c)

/-- The handler of a command. -/
def lookupCommand (name : String) : Option Handler :=
  commandTable.lookup (normalizeName name)

theorem mem_commandTable {name : String} {handler : Handler}
    (found : lookupCommand name = some handler) :
    (normalizeName name, handler) ∈ commandTable := by
  obtain ⟨before, after, same, -⟩ := List.lookup_eq_some_iff.mp found
  rw [same]
  simp

/-- Whether a command has this name. -/
def isKnownCommand (name : String) : Bool :=
  (lookupCommand name).isSome

/-- All names in alphabetical order. -/
def commandNames : List String :=
  (commandTable.map Prod.fst).mergeSort fun a b => decide (a ≤ b)

end TexMarkup
