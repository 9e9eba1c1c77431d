import ServiceStubs.Target.Emitter

/-!
# The Python runtime

The file that sends the requests of all Python clients of a project.
-/

namespace ServiceStubs

/-- Text of the Python runtime. -/
def pythonRuntimeText (m : Metadata) : String :=
  unlines [
    "\"\"\"",
    "This is an auto generated code. This code should not be modified since the file can be overwritten",
    "if new rpcgen commands are executed.",
    "",
    "Runtime for " ++ m.name ++ " " ++ m.version ++ ".",
    "\"\"\"",
    "",
    "from __future__ import annotations",
    "",
    "import itertools",
    "import json",
    "import urllib.request",
    "from datetime import datetime",
    "from enum import Enum",
    "from typing import Any",
    "",
    "",
    "class RemoteError(Exception):",
    "    \"\"\"An error object returned by the deployed backend.\"\"\"",
    "",
    "    def __init__(self, code: int, message: str, data: Any = None) -> None:",
    "        super().__init__(message)",
    "        self.code = code",
    "        self.message = message",
    "        self.data = data",
    "",
    "",
    "def _encode(value: Any) -> Any:",
    "    if hasattr(value, \"to_mapping\"):",
    "        return value.to_mapping()",
    "    if isinstance(value, Enum):",
    "        return value.value",
    "    if isinstance(value, datetime):",
    "        return value.isoformat()",
    "    raise TypeError(f\"cannot send \x7btype(value).__name__\x7d to the backend\")",
    "",
    "",
    "class Remote:",
    "    \"\"\"The class through which all request to the deployed backend are sent.\"\"\"",
    "",
    "    def __init__(self, url: str) -> None:",
    "        self.url = url",
    "        self._ids = itertools.count(1)",
    "",
    "    def call(self, method: str, args: list[Any]) -> Any:",
    "        request = \x7b\"jsonrpc\": \"2.0\", \"method\": method, \"params\": args, \"id\": next(self._ids)\x7d",
    "        body = json.dumps(request, default=_encode).encode(\"utf-8\")",
    "        http_request = urllib.request.Request(",
    "            self.url,",
    "            data=body,",
    "            headers=\x7b\"Content-Type\": \"application/json\"\x7d,",
    "            method=\"POST\",",
    "        )",
    "        with urllib.request.urlopen(http_request) as response:",
    "            payload = json.loads(response.read().decode(\"utf-8\"))",
    "        error = payload.get(\"error\")",
    "        if error:",
    "            raise RemoteError(error.get(\"code\", 0), error.get(\"message\", \"\"), error.get(\"data\"))",
    "        return payload.get(\"result\")"]

end ServiceStubs
