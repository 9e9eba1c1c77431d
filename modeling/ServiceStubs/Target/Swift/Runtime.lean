import ServiceStubs.Target.Emitter

/-!
# The Swift runtime

The file that sends the requests of all Swift clients of a project.
-/

namespace ServiceStubs

/-- Text of the Swift runtime. -/
def swiftRuntimeText (m : Metadata) : String :=
  unlines [
    "// This is an auto generated code. This code should not be modified since the file can be overwritten",
    "// if new rpcgen commands are executed.",
    "//",
    "// Runtime for " ++ m.name ++ " " ++ m.version ++ ".",
    "",
    "import Foundation",
    "",
    "/// An error object returned by the deployed backend.",
    "public struct RemoteError: Error, Decodable \x7b",
    "    public let code: Int",
    "    public let message: String",
    "\x7d",
    "",
    "/// A JSON value of any shape.",
    "public struct AnyCodable: Codable \x7b",
    "    public let value: Any",
    "",
    "    public init(_ value: Any) \x7b",
    "        self.value = value",
    "    \x7d",
    "",
    "    public init(from decoder: Decoder) throws \x7b",
    "        let container = try decoder.singleValueContainer()",
    "        if container.decodeNil() \x7b",
    "            value = NSNull()",
    "        \x7d else if let bool = try? container.decode(Bool.self) \x7b",
    "            value = bool",
    "        \x7d else if let int = try? container.decode(Int.self) \x7b",
    "            value = int",
    "        \x7d else if let double = try? container.decode(Double.self) \x7b",
    "            value = double",
    "        \x7d else if let string = try? container.decode(String.self) \x7b",
    "            value = string",
    "        \x7d else if let array = try? container.decode([AnyCodable].self) \x7b",
    "            value = array.map \x7b $0.value \x7d",
    "        \x7d else if let object = try? container.decode([String: AnyCodable].self) \x7b",
    "            value = object.mapValues \x7b $0.value \x7d",
    "        \x7d else \x7b",
    "            throw DecodingError.dataCorruptedError(in: container, debugDescription: \"unsupported JSON value\")",
    "        \x7d",
    "    \x7d",
    "",
    "    public func encode(to encoder: Encoder) throws \x7b",
    "        var container = encoder.singleValueContainer()",
    "        switch value \x7b",
    "        case is NSNull:",
    "            try container.encodeNil()",
    "        case let bool as Bool:",
    "            try container.encode(bool)",
    "        case let int as Int:",
    "            try container.encode(int)",
    "        case let double as Double:",
    "            try container.encode(double)",
    "        case let string as String:",
    "            try container.encode(string)",
    "        case let array as [Any]:",
    "            try container.encode(array.map \x7b AnyCodable($0) \x7d)",
    "        case let object as [String: Any]:",
    "            try container.encode(object.mapValues \x7b AnyCodable($0) \x7d)",
    "        case let encodable as Encodable:",
    "            try encodable.encode(to: encoder)",
    "        default:",
    "            throw EncodingError.invalidValue(value, .init(codingPath: encoder.codingPath, debugDescription: \"unsupported value\"))",
    "        \x7d",
    "    \x7d",
    "\x7d",
    "",
    "private struct AnyEncodable: Encodable \x7b",
    "    let value: any Encodable",
    "",
    "    func encode(to encoder: Encoder) throws \x7b",
    "        try value.encode(to: encoder)",
    "    \x7d",
    "\x7d",
    "",
    "private struct Request: Encodable \x7b",
    "    let jsonrpc = \"2.0\"",
    "    let method: String",
    "    let params: [AnyEncodable]",
    "    let id: Int",
    "\x7d",
    "",
    "private struct Response<T: Decodable>: Decodable \x7b",
    "    let result: T?",
    "    let error: RemoteError?",
    "\x7d",
    "",
    "/// The class through which all request to the deployed backend are sent.",
    "public final class Remote \x7b",
    "    public let url: String",
    "    private var nextId = 1",
    "    private let lock = NSLock()",
    "",
    "    public init(url: String) \x7b",
    "        self.url = url",
    "    \x7d",
    "",
    "    public func call<T: Decodable>(method: String, args: [any Encodable]) async throws -> T \x7b",
    "        let data = try await send(method: method, args: args)",
    "        let response = try Remote.decoder.decode(Response<T>.self, from: data)",
    "        if let error = response.error \x7b",
    "            throw error",
    "        \x7d",
    "        if let result = response.result \x7b",
    "            return result",
    "        \x7d",
    "        if let none = Optional<AnyCodable>.none as? T \x7b",
    "            return none",
    "        \x7d",
    "        throw DecodingError.valueNotFound(T.self, .init(codingPath: [], debugDescription: \"missing result\"))",
    "    \x7d",
    "",
    "    public func callVoid(method: String, args: [any Encodable]) async throws \x7b",
    "        let data = try await send(method: method, args: args)",
    "        let response = try Remote.decoder.decode(Response<AnyCodable>.self, from: data)",
    "        if let error = response.error \x7b",
    "            throw error",
    "        \x7d",
    "    \x7d",
    "",
    "    private func send(method: String, args: [any Encodable]) async throws -> Data \x7b",
    "        guard let endpoint = URL(string: url) else \x7b",
    "            throw URLError(.badURL)",
    "        \x7d",
    "        var request = URLRequest(url: endpoint)",
    "        request.httpMethod = \"POST\"",
    "        request.setValue(\"application/json\", forHTTPHeaderField: \"Content-Type\")",
    "        request.httpBody = try Remote.encoder.encode(",
    "            Request(method: method, params: args.map \x7b AnyEncodable(value: $0) \x7d, id: takeId())",
    "        )",
    "        let (data, _) = try await URLSession.shared.data(for: request)",
    "        return data",
    "    \x7d",
    "",
    "    private func takeId() -> Int \x7b",
    "        lock.lock()",
    "        defer \x7b lock.unlock() \x7d",
    "        let id = nextId",
    "        nextId += 1",
    "        return id",
    "    \x7d",
    "",
    "    private static let encoder: JSONEncoder = \x7b",
    "        let encoder = JSONEncoder()",
    "        encoder.dateEncodingStrategy = .iso8601",
    "        return encoder",
    "    \x7d()",
    "",
    "    private static let decoder: JSONDecoder = \x7b",
    "        let decoder = JSONDecoder()",
    "        decoder.dateDecodingStrategy = .iso8601",
    "        return decoder",
    "    \x7d()",
    "\x7d"]

end ServiceStubs
