import ServiceStubs.Target.TypeScript
import ServiceStubs.Target.JavaScript
import ServiceStubs.Target.Python
import ServiceStubs.Target.Swift
import ServiceStubs.Target.Dart
import ServiceStubs.Target.Kotlin
import ServiceStubs.Target.Go

/-!
# The emitter of each target
-/

namespace ServiceStubs

/-- The emitter of a target. -/
def Target.emitter : Target → Emitter
  | .typeScript => TypeScript.emitter
  | .javaScript => JavaScript.emitter
  | .python => Python.emitter
  | .swift => Swift.emitter
  | .dart => Dart.emitter
  | .kotlin => Kotlin.emitter
  | .go => Go.emitter

end ServiceStubs
