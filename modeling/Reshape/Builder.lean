import Reshape.Standard

/-!
# Builders

A registry is put together by registrations, in place or by value: then each of them takes a
registry and gives the one that goes on.  A builder does the same for the registry of the
transformer that it builds, and lets others install whatever they need in it.

Main results:

- Definitions `Registry.withOperation`, `Registry.withMaybe`, `Registry.withCallback`: registration
  by value.
- Definition `Builder`: a registry and a mode on their way to a transformer.
- Definition `Builder.extend`: whatever others install.
- Definition `Builder.build`: the transformer of a builder.
-/

namespace Reshape

/-! ## Registries by value -/

namespace Registry

/-- Inserts an operation as it is. -/
def insert (r : Registry) (name : String) (operation : Operation) : Registry :=
  r.register name operation

/-- The registry with an operation that handles null itself. -/
def withOperation (r : Registry) (name : String) (operation : Operation) : Registry :=
  r.register name operation

/-- The registry with an operation with null propagation. -/
def withMaybe (r : Registry) (name : String) (operation : Operation) : Registry :=
  r.registerMaybe name operation

/-- The registry with a callback. -/
def withCallback (r : Registry) (name : String) (callback : Callback) : Registry :=
  r.registerCallback name callback

end Registry

/-! ## Builders -/

/-- The registry and the mode of a transformer that is not built yet. -/
structure Builder where
  registry : Registry
  mode : Mode

namespace Builder

/-- The builder to start from: the standard registry in the mode for batches. -/
def standard : Builder :=
  ⟨.standard, .manyToMany⟩

/-- Sets the mode. -/
def withMode (b : Builder) (mode : Mode) : Builder :=
  { b with mode }

/-- Registers an operation that handles null itself. -/
def register (b : Builder) (name : String) (operation : Operation) : Builder :=
  { b with registry := b.registry.register name operation }

/-- Registers an operation with null propagation. -/
def registerMaybe (b : Builder) (name : String) (operation : Operation) : Builder :=
  { b with registry := b.registry.registerMaybe name operation }

/-- Registers a callback. -/
def registerCallback (b : Builder) (name : String) (callback : Callback) : Builder :=
  { b with registry := b.registry.registerCallback name callback }

/-- Lets others install whatever they need. -/
def extend (b : Builder) (install : Registry → Registry) : Builder :=
  { b with registry := install b.registry }

/-- Replaces the registry entirely. -/
def withRegistry (b : Builder) (registry : Registry) : Builder :=
  { b with registry }

/-- Builds the transformer. -/
def build (b : Builder) : Transformer :=
  ⟨b.registry, b.mode⟩

end Builder

end Reshape
