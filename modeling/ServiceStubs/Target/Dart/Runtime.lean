import ServiceStubs.Target.Emitter

/-!
# The Dart runtime

The file that sends the requests of all Dart clients of a project.
-/

namespace ServiceStubs

/-- Text of the Dart runtime. -/
def dartRuntimeText (m : Metadata) : String :=
  unlines [
    "// This is an auto generated code. This code should not be modified since the file can be overwritten",
    "// if new rpcgen commands are executed.",
    "//",
    "// Runtime for " ++ m.name ++ " " ++ m.version ++ ".",
    "",
    "import 'dart:convert';",
    "",
    "import 'package:http/http.dart' as http;",
    "",
    "/// An error object returned by the deployed backend.",
    "class RemoteException implements Exception \x7b",
    "  final int code;",
    "  final String message;",
    "",
    "  RemoteException(this.code, this.message);",
    "",
    "  @override",
    "  String toString() => 'RemoteException($code): $message';",
    "\x7d",
    "",
    "Object? _encode(Object? value) \x7b",
    "  if (value is DateTime) \x7b",
    "    return value.toIso8601String();",
    "  \x7d",
    "  return (value as dynamic).toJson();",
    "\x7d",
    "",
    "/// The class through which all request to the deployed backend are sent.",
    "class Remote \x7b",
    "  final String url;",
    "  int _nextId = 1;",
    "",
    "  Remote(this.url);",
    "",
    "  Future<dynamic> call(String method, List<dynamic> args) async \x7b",
    "    final body = jsonEncode(",
    "      \x7b\"jsonrpc\": \"2.0\", \"method\": method, \"params\": args, \"id\": _nextId++\x7d,",
    "      toEncodable: _encode,",
    "    );",
    "    final response = await http.post(",
    "      Uri.parse(url),",
    "      headers: \x7b\"Content-Type\": \"application/json\"\x7d,",
    "      body: body,",
    "    );",
    "    final payload = jsonDecode(utf8.decode(response.bodyBytes)) as Map<String, dynamic>;",
    "    final error = payload[\"error\"];",
    "    if (error != null) \x7b",
    "      throw RemoteException((error[\"code\"] as num?)?.toInt() ?? 0, error[\"message\"] as String? ?? \"\");",
    "    \x7d",
    "    return payload[\"result\"];",
    "  \x7d",
    "\x7d"]

end ServiceStubs
