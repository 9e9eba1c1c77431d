import ServiceStubs.Target.Emitter

/-!
# The TypeScript runtime

The file that sends the requests of all TypeScript clients of a project.
-/

namespace ServiceStubs

/-- Text of the TypeScript runtime. -/
def typeScriptRuntimeText (m : Metadata) : String :=
  unlines [
    "/**",
    " * This is an auto generated code. This code should not be modified since the file can be overwritten",
    " * if new rpcgen commands are executed.",
    " *",
    " * Runtime for " ++ m.name ++ " " ++ m.version ++ ".",
    " */",
    "",
    "interface JsonRpcResponse \x7b",
    "  jsonrpc: string;",
    "  id: number;",
    "  result?: any;",
    "  error?: \x7b code: number; message: string \x7d;",
    "\x7d",
    "",
    "async function makeRequest(request: unknown, url: string): Promise<JsonRpcResponse> \x7b",
    "  const response = await fetch(url, \x7b",
    "    method: \"POST\",",
    "    headers: \x7b \"Content-Type\": \"application/json\" \x7d,",
    "    body: JSON.stringify(request),",
    "  \x7d);",
    "  return (await response.json()) as JsonRpcResponse;",
    "\x7d",
    "",
    "/**",
    " * The class through which all request to the deployed backend are sent.",
    " */",
    "export class Remote \x7b",
    "  url: string;",
    "  private nextId = 1;",
    "",
    "  constructor(url: string) \x7b",
    "    this.url = url;",
    "  \x7d",
    "",
    "  async call(method: string, ...args: any[]): Promise<any> \x7b",
    "    const request = \x7b jsonrpc: \"2.0\", method, params: args, id: this.nextId++ \x7d;",
    "    const response = await makeRequest(request, this.url);",
    "    if (response.error) \x7b",
    "      throw new Error(response.error.message);",
    "    \x7d",
    "    return response.result;",
    "  \x7d",
    "\x7d"]

end ServiceStubs
