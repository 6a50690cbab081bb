import CloudPlan.Code.Writer
import CloudPlan.Terraform.Hcl

/-!
# The Terraform writer

Settings and the provider go to one file, variables and outputs to files of their own,
and all else to the main file.
-/

namespace CloudPlan.Terraform

open Code

/-- The name of the engine. -/
def engine : String := "terraform"

/-- The versions of Terraform that are wanted. -/
def requiredVersion : String := ">= 1.5.0"

/-- The settings for a provider. -/
def settings (provider : Provider) : Block :=
  let requirement : Attributes :=
    [("source", .text provider.terraformSource), ("version", .text provider.terraformVersion)]
  let providers : Block :=
    { type := "required_providers"
      attributes := [(provider.terraformName, .map requirement)] }
  { type := "terraform"
    attributes := [("required_version", .text requiredVersion)]
    blocks := [providers] }

/-- The block of a provider, which works in a region unless it is told so elsewhere. -/
def providerBlock (provider : Provider) : Block :=
  let block : Block := { type := "provider", labels := [provider.terraformName] }
  match provider with
  | .azure => block.nest { type := "features" }
  | .aws => block.attr "region" (.ofVariable "region")
  | .gcp => block.attr "region" (.ofVariable "region")

/-- A variable that holds a text. -/
def textVariable (name description : String) : Block :=
  ((Block.ofVariable name).textAttr "description" description).attr "type"
    (.reference (.raw "string"))

/-- The variable for the region. -/
def regionVariable (region : String) : Block :=
  (textVariable "region" "Region to deploy into").textAttr "default" region

/-- The blocks that every project has. -/
def preamble (architecture : Architecture) : List Block :=
  [settings architecture.provider, providerBlock architecture.provider,
    regionVariable architecture.region]

/-- The file that a block belongs in. -/
def fileFor (block : Block) : String :=
  match block.type with
  | "variable" => "variables.tf"
  | "output" => "outputs.tf"
  | "terraform" => "providers.tf"
  | "provider" => "providers.tf"
  | _ => "main.tf"

/-- The files in their order. -/
def fileOrder : List String :=
  ["providers.tf", "variables.tf", "main.tf", "outputs.tf"]

/-- The writer for Terraform. -/
def writer : Writer where
  engine := engine
  preamble := preamble
  fileFor := fileFor
  fileOrder := fileOrder
  render := Hcl.render

end CloudPlan.Terraform
