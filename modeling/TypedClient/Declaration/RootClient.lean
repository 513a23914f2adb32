import TypedClient.Naming
import TypedClient.Schema.Lookup
import TypedClient.Settings
import TypedClient.Text.Casing
import TypedClient.Text.Lines

set_option autoImplicit false

namespace TypedClient

def Settings.datasourcesText (s : Settings) : Text :=
  let members := Text.joinLines (s.datasources.map (· ++ "?: string"))
  if members.isEmpty then "export type Datasources = \x7b\x7d"
  else "export type Datasources = \x7b\n" ++ Text.indent 2 members ++ "\n\x7d"

/-- A member of a class: its name, where it has one of its own, and its text. -/
structure ClassMember where
  name : Option String
  text : Text
  deriving DecidableEq, Repr

namespace Mapping

def getterName (m : Mapping) : String := Text.uncapitalize m.entity

def listingExample (m : Mapping) : List String :=
  [" * // Fetch zero or more " ++ Text.capitalize m.plural,
    " * const " ++ Text.uncapitalize m.plural ++ " = await client." ++ m.getterName ++ ".findMany()"]

def getter (m : Mapping) : ClassMember where
  name := some m.getterName
  text := Text.ofLines
    (["/**",
        " * `client." ++ m.getterName ++ "`: Exposes CRUD operations for the **" ++ m.entity
          ++ "** model.",
        " * Example usage:",
        " * ```ts"]
      ++ m.listingExample
      ++ [" * ```",
        " */",
        "get " ++ m.getterName ++ "(): " ++ delegateName m.entity ++ ";"])

end Mapping

/-- The documentation of the client class; the first mapping gives the example. -/
def clientDoc (client : String) (mappings : List Mapping) : Text :=
  Text.ofLines
    (["/**", " * ##  " ++ client, " *", " * Type-safe database client."]
      ++ (match mappings with
        | [] => []
        | m :: _ =>
          [" * @example", " * ```", " * const client = new " ++ client ++ "()"] ++ m.listingExample
            ++ [" * ```"])
      ++ [" */"])

/-- The members that every client class has, with the documentation of its constructor. -/
def fixedMembers (doc : Text) : List ClassMember :=
  [⟨some "fetcher", "/**\n * @private\n */\nprivate fetcher;"⟩,
    ⟨some "dmmf", "/**\n * @private\n */\nprivate readonly dmmf;"⟩,
    ⟨some "engine", "/**\n * @private\n */\nprivate engine: Engine;"⟩,
    ⟨some "errorFormat", "/**\n * @private\n */\nprivate errorFormat: ErrorFormat;"⟩,
    ⟨none, doc ++ "\nconstructor(optionsArg?: T);"⟩,
    ⟨some "on",
      "on<V extends U>(eventType: V, callback: V extends never ? never : (event: V extends 'query' ? "
        ++ "QueryEvent : LogEvent) => void): void;"⟩,
    ⟨some "connect", "/**\n * Connect with the database\n */\nconnect(): Promise<void>;"⟩,
    ⟨some "disconnect", "/**\n * Disconnect from the database\n */\ndisconnect(): Promise<any>;"⟩,
    ⟨some "raw",
      "/**\n * Makes a raw query\n */\nraw<T = any>(query: string | TemplateStringsArray, ...values: "
        ++ "any[]): Promise<T>;"⟩]

namespace Document

def listable (d : Document) : List Mapping :=
  d.usedMappings.filter fun m => (m.fieldFor .findMany).isSome

def clientMembers (d : Document) (s : Settings) : List ClassMember :=
  fixedMembers (clientDoc s.clientName d.usedMappings) ++ d.listable.map (·.getter)

def clientHead (client : String) : String :=
  "export declare class " ++ client ++ "<T extends " ++ optionsName client ++ " = \x7b\x7d, U = keyof T "
    ++ "extends 'log' ? T['log'] extends Array<LogLevel | LogDefinition> ? GetEvents<T['log']> : never "
    ++ ": never> \x7b"

def clientText (d : Document) (s : Settings) : Text :=
  clientDoc s.clientName d.usedMappings ++ "\n" ++ clientHead s.clientName ++ "\n"
    ++ Text.indent 2 (Text.joinLines ((d.clientMembers s).map (·.text))) ++ "\n\x7d"

end Document

end TypedClient
