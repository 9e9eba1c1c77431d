import ServiceStubs.Target.Emitter

/-!
# The JavaScript runtime

The file that sends the requests of all JavaScript clients of a project.
-/

namespace ServiceStubs

/-- Text of the JavaScript runtime. -/
def javaScriptRuntimeText (m : Metadata) : String :=
  unlines [
    "/**",
    " * This is an auto generated code. This code should not be modified since the file can be overwritten",
    " * if new rpcgen commands are executed.",
    " *",
    " * Runtime for " ++ m.name ++ " " ++ m.version ++ ".",
    " */",
    "",
    "async function makeRequest(request, url) \x7b",
    "  const response = await fetch(url, \x7b",
    "    method: \"POST\",",
    "    headers: \x7b \"Content-Type\": \"application/json\" \x7d,",
    "    body: JSON.stringify(request),",
    "  \x7d);",
    "  return response.json();",
    "\x7d",
    "",
    "/**",
    " * The class through which all request to the deployed backend are sent.",
    " */",
    "export class Remote \x7b",
    "  /**",
    "   * @param \x7bstring\x7d url",
    "   */",
    "  constructor(url) \x7b",
    "    this.url = url;",
    "    this.nextId = 1;",
    "  \x7d",
    "",
    "  /**",
    "   * @param \x7bstring\x7d method",
    "   * @param \x7b...*\x7d args",
    "   * @returns \x7bPromise<*>\x7d",
    "   */",
    "  async call(method, ...args) \x7b",
    "    const request = \x7b jsonrpc: \"2.0\", method, params: args, id: this.nextId++ \x7d;",
    "    const response = await makeRequest(request, this.url);",
    "    if (response.error) \x7b",
    "      throw new Error(response.error.message);",
    "    \x7d",
    "    return response.result;",
    "  \x7d",
    "\x7d"]

end ServiceStubs
