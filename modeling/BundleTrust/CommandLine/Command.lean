import BundleTrust.CommandLine.Arguments
import BundleTrust.Configuration

/-!
# Commands

What can be asked on the command line, and how it is read from arguments.
-/

namespace BundleTrust
namespace CommandLine

/-- What is asked on the command line. -/
inductive Command where
  /-- Make a pair of keys in a directory. -/
  | keygen (directory : String) (isForced : Bool)
  /-- Sign a manifest. -/
  | sign (manifest key : String) (output : Option String) (domain : String)
      (excludes : List String)
  /-- Verify a manifest. -/
  | verify (manifest : String) (publicKey : Option String) (domain : String) (isQuiet : Bool)
  /-- Digest a manifest. -/
  | digest (manifest domain : String) (withYaml : Bool)
  /-- Derive the states of bundles. -/
  | states (bundles : List String) (server active : String) (publicKey : Option String)
      (space : String)
  /-- Tell the version; the name of the program comes with it if it was asked by an option. -/
  | version (withName : Bool)
  /-- Explain how to ask. -/
  | help
  deriving DecidableEq, Repr

/-- A switch. -/
def switch (name : String) (letter : Option Char) : OptionForm := ⟨name, letter, .none, false⟩

/-- An option with a text. -/
def textOption (name : String) : OptionForm := ⟨name, none, .text, false⟩

/-- What `keygen` accepts. -/
def keygenForm : CommandForm :=
  ⟨[⟨"out", none, .path, false⟩, switch "force" (some 'f')], some 0⟩

/-- What `sign` accepts. -/
def signForm : CommandForm :=
  ⟨[⟨"key", some 's', .path, false⟩, ⟨"out", some 'o', .path, false⟩, textOption "domain",
    ⟨"exclude", none, .text, true⟩], some 1⟩

/-- What `verify` accepts. -/
def verifyForm : CommandForm :=
  ⟨[textOption "public-key", textOption "domain", switch "quiet" (some 'q')], some 1⟩

/-- What `digest` accepts. -/
def digestForm : CommandForm := ⟨[textOption "domain", switch "yaml" none], some 1⟩

/-- What `states` accepts. -/
def statesForm : CommandForm :=
  ⟨[textOption "server", textOption "active", textOption "public-key",
    textOption "namespace"], none⟩

/-- What a command without arguments accepts. -/
def bareForm : CommandForm := ⟨[], some 0⟩

/-- Put together a command from its arguments, if nothing is missing. -/
abbrev Composer : Type := Arguments → Option Command

/-- The domain among arguments. -/
def domainOf (arguments : Arguments) : String :=
  (arguments.value? "domain").getD TrustDomain.defaultName

/-- The public key among arguments, or in the environment. -/
def publicKeyOf (lookup : String → Option String) (arguments : Arguments) : Option String :=
  (arguments.value? "public-key").or (lookup TrustDomain.publicKeyVariable)

/-- The commands by their names: what they accept, and how they are put together. -/
def commands (lookup : String → Option String) : List (String × CommandForm × Composer) :=
  [("keygen", keygenForm, fun arguments =>
      some (.keygen ((arguments.value? "out").getD ".") (arguments.isGiven "force"))),
    ("sign", signForm, fun arguments =>
      match arguments.paths, arguments.value? "key" with
      | [manifest], some key =>
          some
            (.sign manifest key (arguments.value? "out") (domainOf arguments)
              (arguments.values "exclude"))
      | _, _ => none),
    ("verify", verifyForm, fun arguments =>
      match arguments.paths with
      | [manifest] =>
          some
            (.verify manifest (publicKeyOf lookup arguments) (domainOf arguments)
              (arguments.isGiven "quiet"))
      | _ => none),
    ("digest", digestForm, fun arguments =>
      match arguments.paths with
      | [manifest] => some (.digest manifest (domainOf arguments) (arguments.isGiven "yaml"))
      | _ => none),
    ("states", statesForm, fun arguments =>
      match arguments.paths, arguments.value? "server" with
      | bundle :: bundles, some server =>
          some
            (.states (bundle :: bundles) server ((arguments.value? "active").getD "")
              (publicKeyOf lookup arguments)
              ((arguments.value? "namespace").getD Configuration.standard.space))
      | _, _ => none),
    ("version", bareForm, fun _ => some (.version false))]

/-- Whether arguments name a command to be explained, or none. -/
def isTopic (lookup : String → Option String) : List String → Bool
  | [] => true
  | [name] => name == "help" || ((commands lookup).lookup name).isSome
  | _ => false

/-- Read what is asked on the command line; nothing if it is misused. -/
def Command.read? (lookup : String → Option String) : List String → Option Command
  | [] => none
  | "-h" :: _ => some .help
  | "--help" :: _ => some .help
  | "-V" :: _ => some (.version true)
  | "--version" :: _ => some (.version true)
  | "help" :: topic => if isTopic lookup topic then some .help else none
  | name :: arguments =>
      match (commands lookup).lookup name with
      | none => none
      | some (form, compose) =>
          match form.read arguments with
          | .ok arguments => compose arguments
          | .error .help => some .help
          | .error .misuse => none

end CommandLine
end BundleTrust
