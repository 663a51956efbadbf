import AliasSync.Http.Error
import AliasSync.Url.Parser

/-! Where the calls of an API go: a path put after a base URL. -/

namespace AliasSync.Http

/-- The written base without the slashes at its end, and then the path. -/
def endpointText (base : Url) (path : String) : String :=
  String.ofList ((base.text.toList.reverse.dropWhile (· == '/')).reverse) ++ path

def endpoint (base : Url) (path : String) : Except HttpError Url :=
  let text := endpointText base path
  (Url.parse text).mapError (.invalidUrl text)

end AliasSync.Http
