import Shorthand.Config.Basic
/-!
Aliases, the short names of packages and projects, and what they stand for. Every package entry lays
claim to aliases; of several claims on one alias the first counts, in the order of the package keys.
-/
set_option autoImplicit false

namespace Shorthand

inductive AliasTarget where
  | package (name : String)
  | project (name : String)
  deriving DecidableEq, Repr

def AliasTarget.name : AliasTarget → String
  | package name | project name => name

structure Claim where
  short : String
  target : AliasTarget
  deriving DecidableEq, Repr

def PackageEntry.claims (key : String) : PackageEntry → List Claim
  | structured package =>
    (package.aliases ++ package.variants.values).map fun a => ⟨a, .package key⟩
  | direct project => [⟨key, .project project⟩]
  | bucket projects => projects.entries.map fun e => ⟨e.1, .project e.2⟩

namespace Config

def claims (c : Config) : List Claim := c.packages.entries.flatMap fun e => e.2.claims e.1

def aliasTarget? (c : Config) (short : String) : Option AliasTarget :=
  (c.claims.find? (·.short = short)).map (·.target)

def hasAlias (c : Config) (short : String) : Bool := c.claims.any (·.short = short)

def aliases (c : Config) : SortedMap AliasTarget :=
  c.claims.foldl
    (fun m claim => if m.contains claim.short then m else m.insert claim.short claim.target) ∅

/-- The claims that come too late: their alias stands for something else. -/
def lostClaims (c : Config) : List Claim :=
  c.claims.filter fun claim => c.aliasTarget? claim.short ≠ some claim.target

def structuredPackages (c : Config) : SortedMap StructuredPackage :=
  c.packages.filterMap fun
    | .structured package => some package
    | _ => none

def structuredPackage? (c : Config) (name : String) : Option StructuredPackage :=
  c.structuredPackages.get? name

def isBaseAlias (c : Config) (short : String) : Bool :=
  match c.aliasTarget? short with
  | some (.package name) => (c.structuredPackage? name).any fun p => p.aliases.contains short
  | _ => false

end Config

structure Resolution where
  package : String
  short : String
  variant : Option String
  project : String
  deriving DecidableEq, Repr

def packageScope : String := "@fux"

def Resolution.ofPackage (package short : String) (variant : Option String) : Resolution where
  package := package
  short := short
  variant := variant
  project := packageScope ++ "/" ++ package ++ (variant.map ("-" ++ ·)).getD ""

def Resolution.ofProject (project short : String) : Resolution := ⟨project, short, none, project⟩

inductive ResolveError where
  | unknownAlias (short : String)
  | unknownVariant (package variant : String)
  deriving DecidableEq, Repr

def ResolveError.message : ResolveError → String
  | unknownAlias short =>
    "Unknown alias '" ++ short ++ "'. Run \x60pae help\x60 to list the configured aliases."
  | unknownVariant package variant =>
    "Package '" ++ package ++ "' has no variant named '" ++ variant ++ "'."

def StructuredPackage.variantOf (p : StructuredPackage) (short : String) : Option String :=
  ((p.variants.entries.find? (·.2 = short)).map (·.1)).or
    (if p.default.isEmpty then none else some p.default)

namespace Config

def resolve (c : Config) (short : String) : Except ResolveError Resolution :=
  match c.aliasTarget? short with
  | some (.project project) => .ok (.ofProject project short)
  | some (.package name) =>
    match c.structuredPackage? name with
    | some p => .ok (.ofPackage name short (p.variantOf short))
    | none => .error (.unknownAlias short)
  | none => .error (.unknownAlias short)

/-- The alias in a given variant of its package; a project that is no package has none and stays as
it is. -/
def resolveVariant (c : Config) (short variant : String) : Except ResolveError Resolution := do
  let r ← c.resolve short
  match c.structuredPackage? r.package with
  | none => .ok r
  | some p =>
    if p.variants.contains variant then .ok (.ofPackage r.package short (some variant))
    else .error (.unknownVariant r.package variant)

end Config

/-- Which variants a run over many packages covers. -/
inductive Coverage where
  | ext
  | core
  | all
  deriving DecidableEq, Repr

namespace Coverage

def word : Coverage → String
  | ext => "ext"
  | core => "core"
  | all => "all"

def every : List Coverage := [ext, core, all]

def ofWord? (s : String) : Option Coverage := every.find? (·.word = s)

def variant? : Coverage → Option String
  | all => none
  | c => some c.word

def covers (c : Coverage) (variant : String) : Bool :=
  match c.variant? with
  | some wanted => wanted = variant
  | none => true

end Coverage

namespace Config

def coveredVariants (c : Config) (coverage : Coverage) : List Resolution :=
  c.structuredPackages.entries.flatMap fun e =>
    (e.2.variants.entries.filter fun v => coverage.covers v.1).map fun v =>
      .ofPackage e.1 v.2 (some v.1)

def directProjects (c : Config) : List Resolution :=
  c.aliases.entries.filterMap fun e =>
    match e.2 with
    | .project project => some (.ofProject project e.1)
    | .package _ => none

/-- All that is covered; the projects without variants belong to a run over everything. -/
def covered (c : Config) (coverage : Coverage) : List Resolution :=
  c.coveredVariants coverage ++ if coverage = .all then c.directProjects else []

end Config

end Shorthand
