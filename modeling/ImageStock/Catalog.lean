import ImageStock.Failure
import ImageStock.Image

/-!
Catalogs of images, and the references that a catalog stands for in an environment.
-/

namespace ImageStock

abbrev Lookup := String → Option String

def Lookup.nonempty? (env : Lookup) (key : String) : Option String :=
  (env key).filter (· ≠ "")

inductive Origin where
  /-- A complete reference. -/
  | fixed (reference : String)
  /-- A repository, tagged with the version of the application. -/
  | versioned (repository : String)
  deriving DecidableEq, Repr

def Origin.isVersioned : Origin → Bool
  | fixed _ => false
  | versioned _ => true

/-- An image that the application needs. The setting named by `overrideKey`, if there is one, takes
the place of the reference or of the repository. -/
structure Item where
  name : String
  overrideKey : Option String
  origin : Origin
  deriving DecidableEq, Repr

structure Catalog where
  items : List Item
  versionKey : String
  defaultVersion : Option String
  deriving DecidableEq, Repr

structure Choice where
  name : String
  image : Image
  deriving DecidableEq, Repr

namespace Item

def override? (item : Item) (env : Lookup) : Option String :=
  item.overrideKey.bind env.nonempty?

def reference (item : Item) (env : Lookup) (version : String) : String :=
  match item.origin with
  | .fixed reference => (item.override? env).getD reference
  | .versioned repository => Image.tagged ((item.override? env).getD repository) version

def choose (item : Item) (env : Lookup) (version : String) : Except Failure Choice :=
  match Image.ofString? (item.reference env version) with
  | some image => .ok ⟨item.name, image⟩
  | none => .error ((Failure.ofFault .emptyReference).within (.inItem item.name))

end Item

namespace Catalog

def needsVersion (catalog : Catalog) : Bool := catalog.items.any (·.origin.isVersioned)

def version? (catalog : Catalog) (env : Lookup) : Option String :=
  env.nonempty? catalog.versionKey <|> catalog.defaultVersion.filter (· ≠ "")

/-- The images of all items, in order. The version is looked for first, and only if an item asks
for it. -/
def resolve (catalog : Catalog) (env : Lookup) : Except Failure (List Choice) :=
  if catalog.needsVersion then
    match catalog.version? env with
    | some version => catalog.items.mapM (·.choose env version)
    | none => .error (.of (.noVersion catalog.versionKey))
  else catalog.items.mapM (·.choose env "")

private def stackItem (name key : String) (origin : Origin) : Item := ⟨name, some key, origin⟩

def builtIn : Catalog where
  items := [
    stackItem "postgres" "IMAGE_POSTGRES" (.fixed "postgres:10.5-alpine"),
    stackItem "redis" "IMAGE_REDIS" (.fixed "redis:5.0.3-alpine3.8"),
    stackItem "kafka" "IMAGE_KAFKA" (.fixed "bitnami/kafka:2.8.1"),
    stackItem "zookeeper" "IMAGE_ZOOKEEPER" (.fixed "bitnami/zookeeper:3.7.0"),
    stackItem "admin" "IMAGE_ADMIN" (.versioned "appstack/admin"),
    stackItem "web-admin" "IMAGE_WEB_ADMIN" (.versioned "appstack/web-admin"),
    stackItem "worker" "IMAGE_WORKER" (.versioned "appstack/worker"),
    stackItem "predictor" "IMAGE_PREDICTOR" (.versioned "appstack/predictor")]
  versionKey := "APP_VERSION"
  defaultVersion := some "latest"

end Catalog

end ImageStock
