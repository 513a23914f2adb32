import TypedClient.Check.Defect
import TypedClient.Json.Quote
import TypedClient.Rendition.Passage

set_option autoImplicit false

namespace TypedClient

def runtimeErrors : List String :=
  ["KnownRequestError", "UnknownRequestError", "EnginePanicError", "InitializationError",
    "ClientValidationError"]

def sqlHelpers : List String := ["sql", "empty", "join", "raw"]

def importPassage (s : Settings) : Passage :=
  .ofLines (["DMMF", "DMMFClass", "Engine"] ++ runtimeErrors ++ sqlHelpers)
    (["import \x7b", "  DMMF,", "  DMMFClass,", "  Engine,"]
      ++ runtimeErrors.map (fun name => "  " ++ name ++ ",")
      ++ ["  sqltag as sql,", "  empty,", "  join,", "  raw,",
        "\x7d from " ++ Json.quote s.runtimePath ++ ";"])

def reexportPassages : List Passage :=
  [.ofLines [] (runtimeErrors.map fun name => "export \x7b " ++ name ++ " \x7d"),
    .ofLines []
      ["/**", " * Re-export of sql-template-tag", " */",
        "export \x7b " ++ ", ".intercalate sqlHelpers ++ " \x7d"]]

def versionPassages (s : Settings) : List Passage :=
  [{ declares := ["ClientVersion"]
     text := Text.joinLines
        ["/**", " * Client version: " ++ s.clientVersion, " * Query engine version: " ++ s.engineVersion,
          " */", "export declare type ClientVersion = \x7b", "  client: string", "  engine: string",
          "\x7d"] },
    .ofLines ["clientVersion"] ["export declare const clientVersion: ClientVersion"]]

def utilityPassages (client : String) : List Passage :=
  [.ofLines []
      ["/**",
        " * Utility Types",
        " */"],
    .ofLines ["JsonObject"]
      ["/**",
        " * Matches a JSON object.",
        " */",
        "declare type JsonObject = \x7b[Key in string]?: JsonValue\x7d"],
    .ofLines ["JsonArray"]
      ["/**",
        " * Matches a JSON array.",
        " */",
        "declare interface JsonArray extends Array<JsonValue> \x7b\x7d"],
    .ofLines ["JsonValue"]
      ["/**",
        " * Matches any valid JSON value.",
        " */",
        "declare type JsonValue = string | number | boolean | null | Date | JsonObject |"
          ++ " JsonArray"],
    .ofLines ["SelectAndInclude"]
      ["declare type SelectAndInclude = \x7b",
        "  select: any",
        "  include: any",
        "\x7d"],
    .ofLines ["HasSelect"]
      ["declare type HasSelect = \x7b",
        "  select: any",
        "\x7d"],
    .ofLines ["HasInclude"]
      ["declare type HasInclude = \x7b",
        "  include: any",
        "\x7d"],
    .ofLines ["CheckSelect"]
      ["declare type CheckSelect<T, S, U> = T extends SelectAndInclude",
        "  ? 'Please either choose `select` or `include`'",
        "  : T extends HasSelect",
        "  ? U",
        "  : T extends HasInclude",
        "  ? U",
        "  : S"],
    .ofLines ["PromiseType"]
      ["/**",
        " * Get the type of the value, that the Promise holds.",
        " */",
        "export declare type PromiseType<T extends PromiseLike<any>> = T extends"
          ++ " PromiseLike<infer U> ? U : T;"],
    .ofLines ["PromiseReturnType"]
      ["/**",
        " * Get the return type of a function which returns a Promise.",
        " */",
        "export declare type PromiseReturnType<T extends (...args: any) => Promise<any>>"
          ++ " = PromiseType<ReturnType<T>>"],
    .ofLines ["Enumerable"]
      ["export declare type Enumerable<T> = T | Array<T>;"],
    .ofLines ["TrueKeys"]
      ["export declare type TrueKeys<T> = \x7b",
        "  [key in keyof T]: T[key] extends false | undefined | null ? never : key",
        "\x7d[keyof T]"],
    .ofLines ["Subset"]
      ["/**",
        " * Subset",
        " * @desc From `T` pick properties that exist in `U`. Simple version of Intersection",
        " */",
        "export declare type Subset<T, U> = \x7b",
        "  [key in keyof T]: key extends keyof U ? T[key] : never;",
        "\x7d;"],
    .ofLines ["ClientFetcher"]
      ["declare class ClientFetcher \x7b",
        "  private readonly client;",
        "  private readonly debug;",
        "  private readonly hooks?;",
        "  constructor(client: " ++ client ++ "<any, any>, debug?: boolean, hooks?: Hooks | undefined);",
        "  request<T>(document: any, dataPath?: string[], rootField?: string, typeName?:"
          ++ " string, isList?: boolean, callsite?: string): Promise<T>;",
        "  sanitizeMessage(message: string): string;",
        "  protected unpack(document: any, data: any, path: string[], rootField?: string,"
          ++ " isList?: boolean): any;",
        "\x7d"]]

def headPassages (s : Settings) : List Passage :=
  importPassage s :: (reexportPassages ++ versionPassages s ++ utilityPassages s.clientName)

def optionPassages (client : String) : List Passage :=
  [.ofLines ["ErrorFormat"]
      ["export type ErrorFormat = 'pretty' | 'colorless' | 'minimal'"],
    .ofLines [optionsName client]
      ["export interface " ++ optionsName client ++ " \x7b",
        "  /**",
        "   * Overwrites the datasource url from your schema file",
        "   */",
        "  datasources?: Datasources",
        "",
        "  /**",
        "   * @default \"colorless\"",
        "   */",
        "  errorFormat?: ErrorFormat",
        "",
        "  /**",
        "   * @example",
        "   * ```",
        "   * // Defaults to stdout",
        "   * log: ['query', 'info', 'warn']",
        "   *",
        "   * // Emit as events",
        "   * log: [",
        "   *  \x7b emit: 'stdout', level: 'query' \x7d,",
        "   *  \x7b emit: 'stdout', level: 'info' \x7d,",
        "   *  \x7b emit: 'stdout', level: 'warn' \x7d",
        "   * ]",
        "   * ```",
        "   */",
        "  log?: Array<LogLevel | LogDefinition>",
        "",
        "  /**",
        "   * You probably don't want to use this. `__internal` is used by internal tooling.",
        "   */",
        "  __internal?: \x7b",
        "    debug?: boolean",
        "    hooks?: Hooks",
        "    engine?: \x7b",
        "      cwd?: string",
        "      binaryPath?: string",
        "    \x7d",
        "    measurePerformance?: boolean",
        "  \x7d",
        "\x7d"],
    .ofLines ["Hooks"]
      ["export type Hooks = \x7b",
        "  beforeRequest?: (options: \x7bquery: string, path: string[], rootField?:"
          ++ " string, typeName?: string, document: any\x7d) => any",
        "\x7d"],
    .ofLines ["LogLevel", "LogDefinition"]
      ["/* Types for Logging */",
        "export type LogLevel = 'info' | 'query' | 'warn'",
        "export type LogDefinition = \x7b",
        "  level: LogLevel",
        "  emit: 'stdout' | 'event'",
        "\x7d"],
    .ofLines ["GetLogType", "GetEvents"]
      ["export type GetLogType<T extends LogLevel | LogDefinition> = T extends"
          ++ " LogDefinition ? T['emit'] extends 'event' ? T['level'] : never : never",
        "export type GetEvents<T extends Array<LogLevel | LogDefinition>> ="
          ++ " GetLogType<T[0]> | GetLogType<T[1]> | GetLogType<T[2]>"],
    .ofLines ["QueryEvent"]
      ["export type QueryEvent = \x7b",
        "  timestamp: Date",
        "  query: string",
        "  params: string",
        "  duration: number",
        "  target: string",
        "\x7d"],
    .ofLines ["LogEvent"]
      ["export type LogEvent = \x7b",
        "  timestamp: Date",
        "  message: string",
        "  target: string",
        "\x7d",
        "/* End Types for Logging */"],
    .ofLines ["getLogLevel"]
      ["export declare function getLogLevel(log: Array<LogLevel | LogDefinition>):"
          ++ " LogLevel | undefined;"]]

def batchPassage : Passage :=
  .ofLines ["BatchPayload"]
    ["/**",
      " * Batch Payload for updateMany & deleteMany",
      " */",
      "",
      "export type BatchPayload = \x7b",
      "  count: number",
      "\x7d"]

def schemaPassage : Passage :=
  .ofLines ["dmmf"]
    ["/**",
      " * DMMF",
      " */",
      "export declare const dmmf: DMMF.Document;",
      "export \x7b\x7d;",
      ""]

end TypedClient
