import ServiceStubs.Target.Emitter

/-!
# The Kotlin runtime

The file that sends the requests of all Kotlin clients of a project.
-/

namespace ServiceStubs

/-- Text of the Kotlin runtime. -/
def kotlinRuntimeText (m : Metadata) : String :=
  unlines [
    "// This is an auto generated code. This code should not be modified since the file can be overwritten",
    "// if new rpcgen commands are executed.",
    "//",
    "// Runtime for " ++ m.name ++ " " ++ m.version ++ ".",
    "",
    "package " ++ "com." ++ m.packageIdent ++ ".sdk",
    "",
    "import com.google.gson.Gson",
    "import com.google.gson.GsonBuilder",
    "import com.google.gson.JsonElement",
    "import com.google.gson.JsonParser",
    "import com.google.gson.TypeAdapter",
    "import com.google.gson.TypeAdapterFactory",
    "import com.google.gson.reflect.TypeToken",
    "import com.google.gson.stream.JsonReader",
    "import com.google.gson.stream.JsonWriter",
    "import java.lang.reflect.Type",
    "import java.net.HttpURLConnection",
    "import java.net.URL",
    "import java.util.concurrent.atomic.AtomicInteger",
    "import kotlinx.coroutines.Dispatchers",
    "import kotlinx.coroutines.withContext",
    "",
    "/** Implemented by every generated enum: the value it travels as. */",
    "interface WireEnum \x7b",
    "    val value: Any",
    "\x7d",
    "",
    "/** An error object returned by the deployed backend. */",
    "class RemoteException(val code: Int, message: String) : Exception(message)",
    "",
    "private object WireEnumAdapterFactory : TypeAdapterFactory \x7b",
    "    override fun <T> create(gson: Gson, type: TypeToken<T>): TypeAdapter<T>? \x7b",
    "        val raw = type.rawType",
    "        if (!raw.isEnum || !WireEnum::class.java.isAssignableFrom(raw)) \x7b",
    "            return null",
    "        \x7d",
    "        val constants = raw.enumConstants.map \x7b it as WireEnum \x7d",
    "        @Suppress(\"UNCHECKED_CAST\")",
    "        return object : TypeAdapter<WireEnum>() \x7b",
    "            override fun write(out: JsonWriter, value: WireEnum?) \x7b",
    "                when (val wire = value?.value) \x7b",
    "                    null -> out.nullValue()",
    "                    is Number -> out.value(wire)",
    "                    else -> out.value(wire.toString())",
    "                \x7d",
    "            \x7d",
    "",
    "            override fun read(reader: JsonReader): WireEnum? \x7b",
    "                val element = JsonParser.parseReader(reader)",
    "                if (element.isJsonNull) \x7b",
    "                    return null",
    "                \x7d",
    "                val primitive = element.asJsonPrimitive",
    "                return constants.firstOrNull \x7b constant ->",
    "                    when (val wire = constant.value) \x7b",
    "                        is Number -> primitive.isNumber && primitive.asDouble == wire.toDouble()",
    "                        else -> primitive.isString && primitive.asString == wire",
    "                    \x7d",
    "                \x7d",
    "            \x7d",
    "        \x7d as TypeAdapter<T>",
    "    \x7d",
    "\x7d",
    "",
    "/** The class through which all request to the deployed backend are sent. */",
    "class Remote(val url: String) \x7b",
    "    private val nextId = AtomicInteger(1)",
    "",
    "    suspend fun <T> call(method: String, type: Type, args: List<Any?>): T \x7b",
    "        val result = send(method, args)",
    "        return gson.fromJson(result, type)",
    "    \x7d",
    "",
    "    suspend fun callVoid(method: String, args: List<Any?>) \x7b",
    "        send(method, args)",
    "    \x7d",
    "",
    "    private suspend fun send(method: String, args: List<Any?>): JsonElement? = withContext(Dispatchers.IO) \x7b",
    "        val request = mapOf(",
    "            \"jsonrpc\" to \"2.0\",",
    "            \"method\" to method,",
    "            \"params\" to args,",
    "            \"id\" to nextId.getAndIncrement(),",
    "        )",
    "        val connection = URL(url).openConnection() as HttpURLConnection",
    "        try \x7b",
    "            connection.requestMethod = \"POST\"",
    "            connection.doOutput = true",
    "            connection.setRequestProperty(\"Content-Type\", \"application/json\")",
    "            connection.outputStream.use \x7b it.write(gson.toJson(request).toByteArray(Charsets.UTF_8)) \x7d",
    "            val body = connection.inputStream.bufferedReader(Charsets.UTF_8).use \x7b it.readText() \x7d",
    "            val payload = JsonParser.parseString(body).asJsonObject",
    "            val error = payload.get(\"error\")",
    "            if (error != null && !error.isJsonNull) \x7b",
    "                val obj = error.asJsonObject",
    "                throw RemoteException(obj.get(\"code\")?.asInt ?: 0, obj.get(\"message\")?.asString ?: \"\")",
    "            \x7d",
    "            payload.get(\"result\")",
    "        \x7d finally \x7b",
    "            connection.disconnect()",
    "        \x7d",
    "    \x7d",
    "",
    "    companion object \x7b",
    "        private val gson: Gson = GsonBuilder()",
    "            .registerTypeAdapterFactory(WireEnumAdapterFactory)",
    "            .setDateFormat(\"yyyy-MM-dd'T'HH:mm:ss.SSSXXX\")",
    "            .serializeNulls()",
    "            .create()",
    "    \x7d",
    "\x7d"]

end ServiceStubs
