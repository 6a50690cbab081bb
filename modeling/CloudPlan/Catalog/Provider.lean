import CloudPlan.Text.Blank
import CloudPlan.Text.LetterCase

/-!
# Cloud providers

The providers, their names and what Terraform needs to know about them.
-/

namespace CloudPlan

/-- A cloud provider. -/
inductive Provider where
  | aws
  | azure
  | gcp
deriving DecidableEq

namespace Provider

/-- All providers. -/
def all : List Provider := [aws, azure, gcp]

/-- How a provider is written. -/
def name : Provider → String
  | aws => "aws"
  | azure => "azure"
  | gcp => "gcp"

/-- The provider that is written exactly so. -/
def named? (text : String) : Option Provider :=
  all.find? (·.name == text)

/-- The provider that a text names, in any case and between blanks. -/
def parse? (text : String) : Option Provider :=
  named? (Text.lower (Text.trim text))

/-- The message about a text that names no provider. -/
def unsupported (text : String) : String :=
  "unsupported cloud provider '" ++ text ++ "'"

/-- The name of the Terraform provider. -/
def terraformName : Provider → String
  | aws => "aws"
  | azure => "azurerm"
  | gcp => "google"

/-- Where the Terraform provider is published. -/
def terraformSource : Provider → String
  | aws => "hashicorp/aws"
  | azure => "hashicorp/azurerm"
  | gcp => "hashicorp/google"

/-- The versions of the Terraform provider that are wanted. -/
def terraformVersion : Provider → String
  | aws => "~> 5.0"
  | azure => "~> 3.0"
  | gcp => "~> 5.0"

/-- The region that is meant when none is named. -/
def defaultRegion : Provider → String
  | aws => "us-east-1"
  | azure => "eastus"
  | gcp => "us-central1"

/--
A provider field of a rule covers a provider: nothing and a star cover all, a name in
any ASCII case covers its own.
-/
def covers (field : String) (provider : Provider) : Bool :=
  let named := Text.trim field
  named == "" || named == "*" || Text.lowerAscii named == provider.name

end Provider

end CloudPlan
