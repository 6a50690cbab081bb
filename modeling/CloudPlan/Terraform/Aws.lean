import CloudPlan.Code.Registry
import CloudPlan.Terraform.Writer
import CloudPlan.Text.Digits

/-!
# AWS resources in Terraform

The blocks of the resources of the AWS catalogue.
-/

namespace CloudPlan.Terraform.Aws

open Code

/-- What a mapper makes, or why it cannot. -/
abbrev Mapped (α : Type) := Except MappingError α

/-- Describes a resource of the catalogue in blocks. -/
abbrev Describer := Resource → Context → Mapped (List Block)

/-- The mapper that fails where a resource cannot be described. -/
def Describer.mapper (describer : Describer) : Mapper := fun resource context =>
  (describer resource context).mapError .mapping

/-! ## Kinds and references -/

/-- The Terraform kinds of the types of the catalogue. -/
def kinds : List (String × String) :=
  [("VPC", "aws_vpc"), ("Subnet", "aws_subnet"), ("InternetGateway", "aws_internet_gateway"),
    ("NATGateway", "aws_nat_gateway"), ("ElasticIP", "aws_eip"),
    ("RouteTable", "aws_route_table"), ("LoadBalancer", "aws_lb"),
    ("Route53Zone", "aws_route53_zone"), ("SecurityGroup", "aws_security_group"),
    ("IAMRole", "aws_iam_role"), ("EC2", "aws_instance"), ("Lambda", "aws_lambda_function"),
    ("EBSVolume", "aws_ebs_volume"), ("S3", "aws_s3_bucket"), ("RDS", "aws_db_instance"),
    ("DynamoDB", "aws_dynamodb_table"), ("SQS", "aws_sqs_queue"), ("SNS", "aws_sns_topic")]

/-- The Terraform kind of a type, if it has one. -/
def kind? (typeName : String) : Option String :=
  kinds.lookup typeName

/-- The identifier of a resource. -/
def localName (context : Context) (resource : Resource) : Mapped String :=
  match context.localName? resource.id with
  | some name => .ok name
  | none => .error ⟨resource.id, "no identifier assigned"⟩

/-- A reference to an attribute of a resource. -/
def refer (context : Context) (target : Resource) (field : String) : Mapped AttrValue :=
  match kind? target.typeName with
  | none => .error ⟨target.id, "no Terraform resource type for " ++ target.typeName⟩
  | some kind => (localName context target).map fun name => .ofResource kind name field

/-- A reference to an attribute of a resource that may not be there. -/
def refer? (context : Context) (target : Option Resource) (field : String) :
    Mapped (Option AttrValue) :=
  match target with
  | none => .ok none
  | some found => (refer context found field).map some

/-- References to an attribute of resources. -/
def referAll (context : Context) (targets : List Resource) (field : String) :
    Mapped (List AttrValue) :=
  targets.mapM (refer context · field)

/-- The block with a list of values set, if there are any. -/
def withList (block : Block) (key : String) (values : List AttrValue) : Block :=
  if values.isEmpty then block else block.attr key (.list values)

/-- The nearest resource of a type that contains another one, which has to be there. -/
def requireAncestor (context : Context) (resource : Resource) (typeName : String) :
    Mapped Resource :=
  match context.ancestor? resource typeName with
  | some ancestor => .ok ancestor
  | none =>
    .error ⟨resource.id, "a " ++ resource.typeName ++ " must be placed inside a " ++ typeName⟩

/-! ## Metadata -/

/-- A text in the metadata, or what stands for it. -/
def textOr (resource : Resource) (key absent : String) : String :=
  (resource.text? key).getD absent

/-- A natural number in the metadata: a number or a text of one. -/
def natural? (resource : Resource) (key : String) : Option Nat :=
  match resource.config.lookup key with
  | some (.number value) => value.natural?
  | some (.text value) => Text.word? (Text.trim value)
  | _ => none

/-- A truth value in the metadata: a truth value or a text of one. -/
def bool? (resource : Resource) (key : String) : Option Bool :=
  match resource.config.lookup key with
  | some (.bool value) => some value
  | some (.text value) => [("true", true), ("false", false)].lookup (Text.trim value)
  | _ => none

/-- The tags of a resource: its name, and those that its metadata holds. -/
def tags (resource : Resource) : AttrValue :=
  let extra := match resource.config.lookup "tags" with
    | some (.object members) => AttrValue.ofJsonMembers members
    | _ => []
  .map (Attributes.ofList (("Name", .text resource.name) :: extra))

/-- The block with the tags of a resource. -/
def tagged (block : Block) (resource : Resource) : Block :=
  block.attr "tags" (tags resource)

/-- A name with hyphens for its underscores. -/
def hyphenated (name : String) : String :=
  String.ofList (name.toList.map fun c => if c = '_' then '-' else c)

/-! ## Networking -/

/-- The blocks of a private network: the network, and an output with its id. -/
def vpc : Describer := fun resource context => do
  let name ← localName context resource
  let block := (Block.resource "aws_vpc" name).textAttr "cidr_block"
    (textOr resource "cidr" "10.0.0.0/16")
  let block := (block.attr "enable_dns_support" (.bool true)).attr "enable_dns_hostnames"
    (.bool true)
  let output := (Block.output (name ++ "_id")).textAttr "description"
    ("ID of VPC " ++ resource.name)
  return [tagged block resource, output.attr "value" (← refer context resource "id")]

/-- The block of a subnet, which has to be in a private network. -/
def subnet : Describer := fun resource context => do
  let vpc ← requireAncestor context resource "VPC"
  let name ← localName context resource
  let block := (Block.resource "aws_subnet" name).attr "vpc_id" (← refer context vpc "id")
  let block := block.textAttr "cidr_block" (textOr resource "cidr" "10.0.1.0/24")
  let block := block.attr? "availability_zone"
    ((resource.text? "availability_zone").map .text)
  let block := block.attr? "map_public_ip_on_launch" ((bool? resource "public").map .bool)
  return [tagged block resource]

/-- The block of an internet gateway. -/
def internetGateway : Describer := fun resource context => do
  let name ← localName context resource
  let vpc ← refer? context (context.ancestor? resource "VPC") "id"
  return [tagged ((Block.resource "aws_internet_gateway" name).attr? "vpc_id" vpc) resource]

/-- The block of a NAT gateway, which is private when it has no address. -/
def natGateway : Describer := fun resource context => do
  let address := (context.children resource "ElasticIP").head?
  let name ← localName context resource
  let allocation ← refer? context address "id"
  let subnet ← refer? context (context.ancestor? resource "Subnet") "id"
  let block := ((Block.resource "aws_nat_gateway" name).attr? "allocation_id" allocation).attr?
    "subnet_id" subnet
  let block := if address.isNone then block.textAttr "connectivity_type" "private" else block
  return [tagged block resource]

/-- The block of an address. -/
def elasticIp : Describer := fun resource context => do
  let name ← localName context resource
  return [tagged ((Block.resource "aws_eip" name).textAttr "domain" "vpc") resource]

/-- The block of a route table, which has to be in a private network. -/
def routeTable : Describer := fun resource context => do
  let vpc ← requireAncestor context resource "VPC"
  let name ← localName context resource
  let block := (Block.resource "aws_route_table" name).attr "vpc_id" (← refer context vpc "id")
  return [tagged block resource]

/-- The subnets of a load balancer: the one it is in, and those it depends on. -/
def balancedSubnets (context : Context) (resource : Resource) : List Resource :=
  let drawn := context.dependencies resource "Subnet"
  match context.ancestor? resource "Subnet" with
  | none => drawn
  | some parent => if drawn.any (·.id == parent.id) then drawn else parent :: drawn

/-- No name of a load balancer has more characters. -/
def longestBalancerName : Nat := 32

/-- The block of a load balancer. -/
def loadBalancer : Describer := fun resource context => do
  let name ← localName context resource
  let subnets ← referAll context (balancedSubnets context resource) "id"
  let groups ← referAll context (context.dependencies resource "SecurityGroup") "id"
  let block := (Block.resource "aws_lb" name).textAttr "name"
    (String.ofList ((hyphenated name).toList.take longestBalancerName))
  let block := block.attr "internal" (.bool ((bool? resource "internal").getD false))
  let block := block.textAttr "load_balancer_type"
    (textOr resource "load_balancer_type" "application")
  let block := withList (withList block "subnets" subnets) "security_groups" groups
  return [tagged block resource]

/-- The block of a DNS zone. -/
def route53Zone : Describer := fun resource context => do
  let name ← localName context resource
  let block := (Block.resource "aws_route53_zone" name).textAttr "name"
    (textOr resource "domain" resource.name)
  return [tagged block resource]

/-! ## Security -/

/-- A block of traffic that is let through, from and to a port. -/
def traffic (direction : String) (port : Nat) (protocol : String) : Block where
  type := direction
  attributes :=
    [("from_port", .ofNat port), ("to_port", .ofNat port), ("protocol", .text protocol),
      ("cidr_blocks", .list [.text "0.0.0.0/0"])]

/-- The ports that a security group lets traffic in at. -/
def ingressPorts (resource : Resource) : List Nat :=
  match resource.config.lookup "ingress_ports" with
  | some (.list ports) =>
    ports.filterMap fun
      | .number port => port.natural?
      | _ => none
  | _ => []

/-- The block of a security group. -/
def securityGroup : Describer := fun resource context => do
  let name ← localName context resource
  let vpc ← refer? context (context.ancestor? resource "VPC") "id"
  let block := (Block.resource "aws_security_group" name).textAttr "name" resource.name
  let block := block.textAttr "description"
    (textOr resource "description" ("Security group " ++ resource.name))
  let block := block.attr? "vpc_id" vpc
  let block := (ingressPorts resource).foldl
    (fun block port => block.nest (traffic "ingress" port "tcp")) block
  return [tagged (block.nest (traffic "egress" 0 "-1")) resource]

/-- The services that assume the roles of resources of some types. -/
def services : List (String × String) :=
  [("Lambda", "lambda.amazonaws.com"), ("EC2", "ec2.amazonaws.com")]

/-- The service that a role is for when nothing says so. -/
def defaultService : String := "lambda.amazonaws.com"

/-- The service that assumes a role: that of the first dependent that has one, or a given one. -/
def service (context : Context) (resource : Resource) : String :=
  let used := (context.dependents resource).findSome? fun dependent =>
    services.lookup dependent.typeName
  (used.or (resource.text? "service")).getD defaultService

/-- The policy that lets a service assume a role. -/
def assumePolicy (service : String) : String :=
  "jsonencode(\x7b Version = \"2012-10-17\", Statement = [\x7b Action = \"sts:AssumeRole\", " ++
    "Effect = \"Allow\", Principal = \x7b Service = \"" ++ service ++ "\" \x7d \x7d] \x7d)"

/-- The policy that lets a function run. -/
def basicExecution : String :=
  "arn:aws:iam::aws:policy/service-role/AWSLambdaBasicExecutionRole"

/-- The blocks of a role: the role, and for functions a policy that is attached to it. -/
def iamRole : Describer := fun resource context => do
  let name ← localName context resource
  let service := service context resource
  let block := (Block.resource "aws_iam_role" name).textAttr "name" resource.name
  let block := block.attr "assume_role_policy" (.reference (.raw (assumePolicy service)))
  if service = defaultService then
    let attachment := Block.resource "aws_iam_role_policy_attachment" (name ++ "_basic_execution")
    let attachment := attachment.attr "role" (← refer context resource "name")
    return [tagged block resource, attachment.textAttr "policy_arn" basicExecution]
  else
    return [tagged block resource]

/-! ## Computing -/

/-- The blocks of an instance, with a variable for its image if none is named. -/
def instanceBlocks : Describer := fun resource context => do
  let name ← localName context resource
  let variableName := name ++ "_ami"
  let groups ← referAll context (context.dependencies resource "SecurityGroup") "id"
  let subnet ← refer? context (context.ancestor? resource "Subnet") "id"
  let image := (resource.text? "ami").elim (.ofVariable variableName) .text
  let block := (Block.resource "aws_instance" name).attr "ami" image
  let block := block.textAttr "instance_type" (textOr resource "instance_type" "t3.micro")
  let block := withList (block.attr? "subnet_id" subnet) "vpc_security_group_ids" groups
  let given :=
    if (resource.text? "ami").isSome then []
    else [textVariable variableName ("AMI for instance " ++ resource.name)]
  return tagged block resource :: given

/-- What a function is told about resources of some types: the end of a name, and a field. -/
def announcements : List (String × String × String) :=
  [("S3", "BUCKET", "bucket"), ("SQS", "QUEUE_URL", "url"), ("SNS", "TOPIC_ARN", "arn"),
    ("DynamoDB", "TABLE_NAME", "name")]

/-- What a function is told about a resource, if anything. -/
def announce? (context : Context) (target : Resource) : Mapped (Option (String × AttrValue)) :=
  match announcements.lookup target.typeName with
  | none => .ok none
  | some (suffix, field) => do
    let name ← localName context target
    return some (Text.upper name ++ "_" ++ suffix, ← refer context target field)

/-- The environment of a function: what it is told about the resources it depends on. -/
def environment (context : Context) (resource : Resource) : Mapped Attributes := do
  let told ← (resource.targets.filterMap context.resource?).mapM (announce? context)
  return Attributes.ofList (told.filterMap id)

/-- The role of a function: the one it names, or the first one it depends on. -/
def role (context : Context) (resource : Resource) : Mapped AttrValue :=
  match resource.text? "role_arn" with
  | some arn => .ok (.text arn)
  | none =>
    match (context.dependencies resource "IAMRole").head? with
    | some role => refer context role "arn"
    | none => .error ⟨resource.id, "a Lambda needs an IAM role or a role_arn"⟩

/-- The block of a function. -/
def lambdaFunction : Describer := fun resource context => do
  let name ← localName context resource
  let role ← role context resource
  let given ← environment context resource
  let block := (Block.resource "aws_lambda_function" name).textAttr "function_name" resource.name
  let block := (block.attr "role" role).textAttr "runtime" (textOr resource "runtime" "python3.12")
  let block := block.textAttr "handler" (textOr resource "handler" "index.handler")
  let block := tagged (block.textAttr "filename" (textOr resource "filename" (name ++ ".zip")))
    resource
  if given.isEmpty then
    return [block]
  else
    return [block.nest { type := "environment", attributes := [("variables", .map given)] }]

/-! ## Storage and databases -/

/-- How many device names there are. -/
def deviceCount : Nat := 11

/-- The device name for a place: a letter from f on, and from the start again after the last. -/
def deviceName (place : Nat) : String :=
  "/dev/sd" ++ String.singleton (Char.ofNat ('f'.toNat + place % deviceCount))

/-- The instance that contains a volume, if one does. -/
def hostInstance? (context : Context) (resource : Resource) : Option Resource :=
  (context.container? resource).filter (·.typeName == "EC2")

/-- The size of a volume: its own, or that which its instance asks for, or the usual one. -/
def volumeSize (resource : Resource) (host : Option Resource) : Nat :=
  ((natural? resource "size_gb").or (host.bind (natural? · "extra_volume_gb"))).getD 20

/-- The block that attaches a volume to an instance. -/
def attachment (context : Context) (resource host : Resource) (name : String) : Mapped Block := do
  let place := ((context.children host "EBSVolume").findIdx? (·.id == resource.id)).getD 0
  let block := (Block.resource "aws_volume_attachment" (name ++ "_attachment")).textAttr
    "device_name" (deviceName place)
  let block := block.attr "volume_id" (← refer context resource "id")
  return block.attr "instance_id" (← refer context host "id")

/-- The blocks of a volume: the volume, and its attachment to the instance it is in. -/
def ebsVolume : Describer := fun resource context => do
  let name ← localName context resource
  let host := hostInstance? context resource
  let zone ← match host with
    | some found => refer context found "availability_zone"
    | none =>
      pure (.text (textOr resource "availability_zone" (context.architecture.region ++ "a")))
  let block := (Block.resource "aws_ebs_volume" name).attr "availability_zone" zone
  let block := block.attr "size" (.ofNat (volumeSize resource host))
  let block := tagged (block.textAttr "type" (textOr resource "volume_type" "gp3")) resource
  match host with
  | some found => return [block, ← attachment context resource found name]
  | none => return [block]

/-- The blocks of a bucket: the bucket, and an output with its resource name. -/
def s3Bucket : Describer := fun resource context => do
  let name ← localName context resource
  let block := (Block.resource "aws_s3_bucket" name).textAttr "bucket"
    (textOr resource "bucket_name" (hyphenated name))
  let output := (Block.output (name ++ "_arn")).textAttr "description"
    ("ARN of bucket " ++ resource.name)
  return [tagged block resource, output.attr "value" (← refer context resource "arn")]

/-- The blocks of a database: the database, and a variable for its password. -/
def dbInstance : Describer := fun resource context => do
  let name ← localName context resource
  let password := name ++ "_password"
  let groups ← referAll context (context.dependencies resource "SecurityGroup") "id"
  let block := (Block.resource "aws_db_instance" name).textAttr "identifier" (hyphenated name)
  let block := block.textAttr "engine" (textOr resource "engine" "postgres")
  let block := block.attr? "engine_version" ((resource.text? "engine_version").map .text)
  let block := block.textAttr "instance_class" (textOr resource "instance_class" "db.t3.micro")
  let block := block.attr "allocated_storage"
    (.ofNat ((natural? resource "storage_gb").getD 20))
  let block := block.textAttr "username" (textOr resource "username" "stratus")
  let block := block.attr "password" (.ofVariable password)
  let block := withList (block.attr "skip_final_snapshot" (.bool true))
    "vpc_security_group_ids" groups
  let passwordVariable := textVariable password
    ("Master password for database " ++ resource.name)
  return [tagged block resource, passwordVariable.attr "sensitive" (.bool true)]

/-- The block of a table. -/
def dynamodbTable : Describer := fun resource context => do
  let hashKey := textOr resource "hash_key" "id"
  let name ← localName context resource
  let block := (Block.resource "aws_dynamodb_table" name).textAttr "name" resource.name
  let block := (block.textAttr "billing_mode" "PAY_PER_REQUEST").textAttr "hash_key" hashKey
  return [(tagged block resource).nest
    { type := "attribute", attributes := [("name", .text hashKey), ("type", .text "S")] }]

/-! ## Messaging -/

/-- The block of a queue, which may keep the order of its messages. -/
def sqsQueue : Describer := fun resource context => do
  let name ← localName context resource
  let block := Block.resource "aws_sqs_queue" name
  let block :=
    if (bool? resource "fifo").getD false then
      (block.textAttr "name" (resource.name ++ ".fifo")).attr "fifo_queue" (.bool true)
    else
      block.textAttr "name" resource.name
  return [tagged block resource]

/-- The block of a topic. -/
def snsTopic : Describer := fun resource context => do
  let name ← localName context resource
  return [tagged ((Block.resource "aws_sns_topic" name).textAttr "name" resource.name) resource]

/-! ## The catalogue -/

/-- The mappers of the types of the catalogue. -/
def mappers : List (String × Describer) :=
  [("VPC", vpc), ("Subnet", subnet), ("InternetGateway", internetGateway),
    ("NATGateway", natGateway), ("ElasticIP", elasticIp), ("RouteTable", routeTable),
    ("LoadBalancer", loadBalancer), ("Route53Zone", route53Zone),
    ("SecurityGroup", securityGroup), ("IAMRole", iamRole), ("EC2", instanceBlocks),
    ("Lambda", lambdaFunction), ("EBSVolume", ebsVolume), ("S3", s3Bucket),
    ("RDS", dbInstance), ("DynamoDB", dynamodbTable), ("SQS", sqsQueue), ("SNS", snsTopic)]

/-- The entries of the mappers. -/
def mapperEntries : List MapperEntry :=
  mappers.map fun found => ⟨engine, found.1, found.2.mapper⟩

end CloudPlan.Terraform.Aws

namespace CloudPlan.Code.Registry

/-- The registry with Terraform and its mappers for the AWS catalogue. -/
def builtIn : Registry where
  writers := [Terraform.writer]
  mappers := Terraform.Aws.mapperEntries

end CloudPlan.Code.Registry
