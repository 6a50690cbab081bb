import CloudPlan.Catalog.Basic

/-!
# The AWS catalogue

The resource types that are known from the start, with their hidden rules.
-/

namespace CloudPlan.Catalog

namespace Aws

/-- A type of the catalogue whose resources live in a region. -/
def regional (name : String) (category : Category) (kind : String) : ResourceType :=
  .regional name category kind .aws

/-- A type of the catalogue whose resources live in no region. -/
def global (name : String) (category : Category) (kind : String) : ResourceType :=
  .global name category kind .aws

/-- A NAT gateway contains an address. -/
def natGatewayRule : HiddenRule where
  provider := "aws"
  parentType := "NATGateway"
  childType := "ElasticIP"
  isAttached := true

/-- An instance with extra storage contains volumes. -/
def instanceRule : HiddenRule where
  provider := "aws"
  parentType := "EC2"
  childType := "EBSVolume"
  quantity := "metadata.extra_volume_count ?? 1"
  condition := some "metadata.extra_volume_gb > 0"
  isAttached := true

/-- A function that names no role depends on one. -/
def lambdaRule : HiddenRule where
  provider := "aws"
  parentType := "Lambda"
  childType := "IAMRole"
  condition := some "metadata.role_arn == null"

/-- The types of the catalogue with their rules. -/
def entries : List (ResourceType × List HiddenRule) :=
  [(regional "VPC" .networking "vpc", []),
    (regional "Subnet" .networking "subnet", []),
    (regional "InternetGateway" .networking "internet_gateway", []),
    (regional "NATGateway" .networking "nat_gateway", [natGatewayRule]),
    (regional "ElasticIP" .networking "eip", []),
    (regional "RouteTable" .networking "route_table", []),
    (regional "LoadBalancer" .networking "lb", []),
    (global "Route53Zone" .networking "route53_zone", []),
    (regional "SecurityGroup" .security "security_group", []),
    (global "IAMRole" .security "iam_role", []),
    (regional "EC2" .compute "instance", [instanceRule]),
    (regional "Lambda" .compute "lambda_function", [lambdaRule]),
    (regional "EBSVolume" .storage "ebs_volume", []),
    (global "S3" .storage "s3_bucket", []),
    (regional "RDS" .database "db_instance", []),
    (regional "DynamoDB" .database "dynamodb_table", []),
    (regional "SQS" .messaging "sqs_queue", []),
    (regional "SNS" .messaging "sns_topic", [])]

end Aws

/-- The catalogue that is known from the start. -/
def builtIn : Catalog :=
  Aws.entries.foldl (fun catalog entry => catalog.register entry.1 entry.2) empty

end CloudPlan.Catalog
