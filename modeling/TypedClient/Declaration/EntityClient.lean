import TypedClient.Declaration.Projection

set_option autoImplicit false

namespace TypedClient

def clientState : List String :=
  ["private readonly _dmmf;",
    "private readonly _fetcher;",
    "private readonly _queryType;",
    "private readonly _rootField;",
    "private readonly _clientMethod;",
    "private readonly _args;",
    "private readonly _dataPath;",
    "private readonly _errorFormat;",
    "private readonly _measurePerformance?;",
    "private _isList;",
    "private _callsite;",
    "private _requestPromise?;",
    "constructor(_dmmf: DMMFClass, _fetcher: ClientFetcher, _queryType: 'query' |"
      ++ " 'mutation', _rootField: string, _clientMethod: string, _args: any, _dataPath:"
      ++ " string[], _errorFormat: ErrorFormat, _measurePerformance?: boolean | undefined,"
      ++ " _isList?: boolean);",
    "readonly [Symbol.toStringTag]: 'ClientPromise';"]

def promiseMethods : List String :=
  ["/**",
    " * Attaches callbacks for the resolution and/or rejection of the Promise.",
    " * @param onfulfilled The callback to execute when the Promise is resolved.",
    " * @param onrejected The callback to execute when the Promise is rejected.",
    " * @returns A Promise for the completion of which ever callback is executed.",
    " */",
    "then<TResult1 = T, TResult2 = never>(onfulfilled?: ((value: T) => TResult1 |"
      ++ " Promise<TResult1>) | undefined | null, onrejected?: ((reason: any) => TResult2 |"
      ++ " Promise<TResult2>) | undefined | null): Promise<TResult1 | TResult2>;",
    "/**",
    " * Attaches a callback for only the rejection of the Promise.",
    " * @param onrejected The callback to execute when the Promise is rejected.",
    " * @returns A Promise for the completion of the callback.",
    " */",
    "catch<TResult = never>(onrejected?: ((reason: any) => TResult | Promise<TResult>) |"
      ++ " undefined | null): Promise<T | TResult>;",
    "/**",
    " * Attaches a callback that is invoked when the Promise is settled (fulfilled or"
      ++ " rejected). The",
    " * resolved value cannot be modified from the callback.",
    " * @param onfinally The callback to execute when the Promise is settled (fulfilled"
      ++ " or rejected).",
    " * @returns A Promise for the completion of the callback.",
    " */",
    "finally(onfinally?: (() => void) | undefined | null): Promise<T>;"]

namespace OutputField

/-- What following a relation returns: a list, or one record that may be missing. -/
def accessorReturn (f : OutputField) : String :=
  if f.target.isList then returnType f.target.type .findMany none
  else returnType f.target.type .findOne (some (! f.target.isRequired))

def accessor (f : OutputField) : String :=
  f.name ++ "<T extends " ++ f.argsName ++ " = \x7b\x7d>(args?: Subset<T, " ++ f.argsName ++ ">): "
    ++ f.accessorReturn ++ ";"

end OutputField

namespace OutputType

def accessors (t : OutputType) : List String := t.relations.map (·.accessor)

def clientText (t : OutputType) : Text :=
  "export declare class " ++ clientName t.name ++ "<T> implements Promise<T> \x7b\n"
    ++ Text.indent 2 (Text.ofLines
        (clientState ++ t.accessors ++ ["private get _document();"] ++ promiseMethods))
    ++ "\n\x7d\n"

end OutputType

end TypedClient
