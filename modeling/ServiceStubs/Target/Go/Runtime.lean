import ServiceStubs.Target.Emitter

/-!
# The Go runtime

The file that sends the requests of all Go clients of a project.
-/

namespace ServiceStubs

/-- Text of the Go runtime. -/
def goRuntimeText (m : Metadata) : String :=
  unlines [
    "// This is an auto generated code. This code should not be modified since the file can be overwritten",
    "// if new rpcgen commands are executed.",
    "//",
    "// Runtime for " ++ m.name ++ " " ++ m.version ++ ".",
    "",
    "package " ++ m.packageIdent,
    "",
    "import (",
    "\t\"bytes\"",
    "\t\"encoding/json\"",
    "\t\"fmt\"",
    "\t\"net/http\"",
    "\t\"sync/atomic\"",
    ")",
    "",
    "// RemoteError is an error object returned by the deployed backend.",
    "type RemoteError struct \x7b",
    "\tCode    int             `json:\"code\"`",
    "\tMessage string          `json:\"message\"`",
    "\tInfo    json.RawMessage `json:\"info,omitempty\"`",
    "\x7d",
    "",
    "func (e *RemoteError) Error() string \x7b",
    "\treturn fmt.Sprintf(\"remote error %d: %s\", e.Code, e.Message)",
    "\x7d",
    "",
    "type request struct \x7b",
    "\tJsonrpc string `json:\"jsonrpc\"`",
    "\tMethod  string `json:\"method\"`",
    "\tParams  []any  `json:\"params\"`",
    "\tID      int64  `json:\"id\"`",
    "\x7d",
    "",
    "type response struct \x7b",
    "\tResult json.RawMessage `json:\"result\"`",
    "\tError  *RemoteError    `json:\"error\"`",
    "\x7d",
    "",
    "// Remote is the type through which all requests to the deployed backend are sent.",
    "type Remote struct \x7b",
    "\tURL    string",
    "\tClient *http.Client",
    "\tnextID atomic.Int64",
    "\x7d",
    "",
    "func NewRemote(url string) *Remote \x7b",
    "\treturn &Remote\x7bURL: url, Client: http.DefaultClient\x7d",
    "\x7d",
    "",
    "// Call sends one JSON-RPC request and returns the raw result.",
    "func (r *Remote) Call(method string, args ...any) (json.RawMessage, error) \x7b",
    "\tbody, err := json.Marshal(request\x7b",
    "\t\tJsonrpc: \"2.0\",",
    "\t\tMethod:  method,",
    "\t\tParams:  wireParams(args),",
    "\t\tID:      r.nextID.Add(1),",
    "\t\x7d)",
    "\tif err != nil \x7b",
    "\t\treturn nil, err",
    "\t\x7d",
    "",
    "\tresp, err := r.Client.Post(r.URL, \"application/json\", bytes.NewReader(body))",
    "\tif err != nil \x7b",
    "\t\treturn nil, err",
    "\t\x7d",
    "\tdefer resp.Body.Close()",
    "",
    "\tvar payload response",
    "\tif err := json.NewDecoder(resp.Body).Decode(&payload); err != nil \x7b",
    "\t\treturn nil, err",
    "\t\x7d",
    "\tif payload.Error != nil \x7b",
    "\t\treturn nil, payload.Error",
    "\t\x7d",
    "\treturn payload.Result, nil",
    "\x7d",
    "",
    "func call[T any](r *Remote, method string, args ...any) (T, error) \x7b",
    "\tvar result T",
    "\traw, err := r.Call(method, args...)",
    "\tif err != nil \x7b",
    "\t\treturn result, err",
    "\t\x7d",
    "\tif len(raw) > 0 \x7b",
    "\t\terr = json.Unmarshal(raw, &result)",
    "\t\x7d",
    "\treturn result, err",
    "\x7d",
    "",
    "func callVoid(r *Remote, method string, args ...any) error \x7b",
    "\t_, err := r.Call(method, args...)",
    "\treturn err",
    "\x7d",
    "",
    "// omitted stands for an optional argument the caller left out.",
    "type omitted struct\x7b\x7d",
    "",
    "func optional[T any](v *T) any \x7b",
    "\tif v == nil \x7b",
    "\t\treturn omitted\x7b\x7d",
    "\t\x7d",
    "\treturn *v",
    "\x7d",
    "",
    "// wireParams drops trailing omitted arguments so the backend applies its",
    "// defaults. Omitted arguments before a given one travel as null.",
    "func wireParams(args []any) []any \x7b",
    "\tend := len(args)",
    "\tfor end > 0 \x7b",
    "\t\tif _, ok := args[end-1].(omitted); !ok \x7b",
    "\t\t\tbreak",
    "\t\t\x7d",
    "\t\tend--",
    "\t\x7d",
    "\tparams := make([]any, end)",
    "\tfor i, arg := range args[:end] \x7b",
    "\t\tif _, ok := arg.(omitted); !ok \x7b",
    "\t\t\tparams[i] = arg",
    "\t\t\x7d",
    "\t\x7d",
    "\treturn params",
    "\x7d"]

end ServiceStubs
