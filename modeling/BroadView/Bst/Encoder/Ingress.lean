import BroadView.Bst.Encoder.Realm

namespace BroadView.Bst

open Buffer

def ippgEncoder : RealmEncoder :=
  { realmTemplate := " \x7b \"realm\": \"ingress-port-priority-group\", \"%s\": [ "
    dataTemplate := " [  %d , %lu , %lu ] ,"
    count := fun asic => asic.numPriorityGroups
    counters := fun snapshot port priGroup =>
      [(snapshot.iPortPg port priGroup).umShareBufferCount,
        (snapshot.iPortPg port priGroup).umHeadroomBufferCount]
    maxima := fun max port priGroup =>
      [some (max.iPortPg port priGroup).umShareMaxBuf,
        some (max.iPortPg port priGroup).umHeadroomMaxBuf] }

def ipspEncoder : RealmEncoder :=
  { realmTemplate := " \x7b \"realm\": \"ingress-port-service-pool\", \"%s\": [ "
    dataTemplate := " [  %d , %lu ] ,"
    count := fun asic => asic.numServicePools
    counters := fun snapshot port pool => [(snapshot.iPortSp port pool).umShareBufferCount]
    maxima := fun max port pool => [some (max.iPortSp port pool)] }

def ispEncoder : RealmEncoder :=
  { realmTemplate := " \x7b \"realm\": \"ingress-service-pool\", \"%s\": [ "
    dataTemplate := " [  %d , %lu ] ,"
    count := fun asic => asic.numServicePools
    counters := fun snapshot _ pool => [(snapshot.iSp pool).umShareBufferCount]
    maxima := fun max _ pool => [some (max.iSp pool)] }

def jsonencode_report_ingress_ippg (input : ReportInput) : List Op :=
  encode_port_realm ippgEncoder input

def jsonencode_report_ingress_ipsp (input : ReportInput) : List Op :=
  encode_port_realm ipspEncoder input

def jsonencode_report_ingress_sp (input : ReportInput) : List Op :=
  encode_index_realm ispEncoder input

def includesIngress (flags : RealmFlags) : Bool :=
  flags.ingressPortPriorityGroup || flags.ingressPortServicePool || flags.ingressServicePool

def includesEgress (flags : RealmFlags) : Bool :=
  flags.egressCpuQueue || flags.egressMcQueue || flags.egressPortServicePool ||
    flags.egressRqeQueue || flags.egressServicePool || flags.egressUcQueue ||
    flags.egressUcQueueGroup

-- The last separator is given up when no egress realm follows.
def jsonencode_report_ingress (input : ReportInput) : List Op :=
  let flags := input.options.includes
  (if flags.ingressPortPriorityGroup then jsonencode_report_ingress_ippg input else []) ++
    (if flags.ingressPortServicePool then jsonencode_report_ingress_ipsp input else []) ++
    (if flags.ingressServicePool then jsonencode_report_ingress_sp input else []) ++
    (if includesEgress flags then [] else [.back])

end BroadView.Bst
