set_option autoImplicit false

/-! # Names of characters: East Asian scripts and the rest of the basic plane

Runs of neighbouring characters, each with the code point of the first one, in the notation of
`EstreeEmitter.Text.nameEntries`. -/

namespace EstreeEmitter.Text

/-- The names of the characters from U+2E80 to U+FFFF. -/
def eastAsianNames : List (Nat × String) := [
  (0x2E80, "aCJK RADICAL REPEATcCLIFFcSECONDuvdzcdylcvhcBOXcTABLEcKNIFEuvdzccDIVINATIONcSEALcxguvdzc
cLAMEuvdzcdyldqncSNAKEcTHREADcSNOUTuvdzccrluvdzccrfcRAP"),
  (0x2E9B, "aCJK RADICAL CHOKEcSUNctvcDEATHcMOTHERcCIVILIANcWATERuvdzccFIREcPAWuvdzc
cSIMPLIFIEDrdTREE TRUNKcCOWcDOGcJADEcBOLT OF CLOTHcEYEcSPIRITuvdzccBAMBOOcSILKcnmSILKcNETuvdzcdyldqn
cMESHcSHEEPcRAMcEWEcuscBRUSHuvdzccMEATcMORTARcGRASSuvdzcdylcTIGERcCLOTHESczsuvdzccnmSEEcSIMPLIFIEDrt
crtcnmSPEECHdwvcFOOTcnmCARTcSIMPLIFIED WALKcWALKuvdzccCITYcnmGOLDctguvdzccnmtgdGATEcMOUNDuvdzccRAIN
cBLUEcnmTANNED LEATHERdLEAFdWINDdFLYcEATuvdzcdylcnmEATcHEADcnmHORSEcBONEcGHOSTcnmFISHdBIRDdSALT
cSIMPLIFIED WHEATdYELLOWcnmFROGcJ-SIMPLIFIED EVENcnmEVENcJ-SIMPLIFIED TOOTHcnmTOOTH
cJ-SIMPLIFIED DRAGONcnmDRAGONcTURTLEcJ-SIMPLIFIED TURTLEcnmTURTLE"),
  (0x2F00, "aKANGXI RADICALuvctdcpjcSLASHcSECONDcrrczccLIDcMANcLEGScENTERcptcppBOXcCOVERcICEcTABLE
cuwBOXcKNIFEcPOWERcWRAPcSPOONcwbuwBOXcHIDING ENCLOSUREcyecDIVINATIONcSEALcCLIFFcPRIVATEcAGAINctw
cENCLOSUREcEARTHcSCHOLARcGOdSLOWLYcEVENINGcBIGcWOMANcCHILDcROOFcINCHcxgcLAMEcCORPSEcSPROUTcMOUNTAIN
cRIVERcWORKcONESELFcTURBANcDRYcwxTHREADcpmCLIFFctgSTRIDEczcHANDScSHOOTcBOWcSNOUTcBRISTLEcSTEPcrl
cHALBERDcDOORcrfcBRANCHcRAPcwkcDIPPERcAXEcxmcukcSUNcSAYctvcTREEcLACKcxqcDEATHcWEAPONcDOukcCOMPARE
cFURcCLANcSTEAMcWATERcFIREcCLAWcFATHERcpnXcrdTREE TRUNKcSLICEcFANGcCOWcDOGcPROFOUNDcJADEcMELONcTILE
cSWEETcLIFEcUSEcFIELDcBOLT OF CLOTHcSICKNESScpmTENTczucSKINcpicEYEcSPEARcmtcSTONEcSPIRITcTRACKcGRAIN
cCAVEcSTANDcBAMBOOcRICEcSILKcJARcNETcSHEEPcFEATHERcuscmkcPLOWcEARcBRUSHcMEATcMINISTERcSELFcARRIVE
cMORTARcTONGUEcOPPOSEcBOATcSTOPPINGcCOLORcGRASScTIGERcINSECTcBLOODcWALK ENCLOSUREcCLOTHESczscSEEcrt
cSPEECHcVALLEYcBEANcPIGcBADGERcwvcREDcRUNcFOOTcBODYcCARTcBITTERcMORNINGcWALKcCITYcWINEcDISTINGUISH
cVILLAGEcGOLDctgcGATEcMOUNDcSLAVEcwxTAILED BIRDcRAINcBLUEcWRONGcqecLEATHERcTANNED LEATHERcLEEKcSOUND
cLEAFcWINDcFLYcEATcHEADcFRAGRANTcHORSEcBONEcTALLcHAIRcFIGHTcSACRIFICIAL WINEcCAULDRONcGHOSTcFISH
cBIRDcSALTcDEERcWHEATcHEMPcYELLOWcMILLETcngcEMBROIDERYcFROGcTRIPODcDRUMcRATcNOSEcEVENcTOOTHcDRAGON
cTURTLEcFLUTE"),
  (0x2FF0, "arvDESCRIPTION CHARACTERsuTOwbdmbTOnbdsuTOtsmkwbdmbTOtsmknbdqqSURROUNDdSURROUNDqpmbfnb
fsufzgsugwbftisudOVERLAID"),
  (0x3000, "arvxkboebqqxqaDITTOtnaJAPANESE INDUSTRIAL STANDARDxyarvITERATIONtnbCLOSINGtnbunzzasumlnk
awbmlnkasupnmlnkawbpnmlnkasuoinkawboinkasuzuoinkawbzuoinkasungLENTICULARnkawbngLENTICULARnkaPOSTALtn
aGETAtnasuytwvnkawbytwvnkasuzuLENTICULARnkawbzuLENTICULARnkasuzuytwvnkawbzuytwvnkasuzuxmnkawbzuxmnk
aWAVEotawapnPRIMEvwtnapnPRIMEvwtnathpnPRIMEvwtnaPOSTALtnqeaHANGZHOU NUMERALuvczccylcqncqicxecwpcpt
cufarvLEVELyqtnbRISINGyqtnbDEPARTINGyqtnbENTERINGyqtnaHANGULxcpjyqtnbpnpjyqtnaWAVYotazlKANA REPEATtn
dzvVOICED SOUNDtndtnzgrddzvVOICED SOUNDtnzgrddtntirdanxPOSTALtnarvTELEGRAPHtdFEEDwoxy
aHANGZHOU NUMERALyeczbcyjazlrvITERATIONtnaMASUtnaPART ALTERNATIONtnarvVARIATION INDICATOR
brdFILLxk"),
  (0x3041, "aHIRAGANAtaxgAcAcxgIcIcxgUcUcxgEcEcxgOcOcKAcGAcKIcGIcKUcGUcKEcGEcKOcGOcSAcZAcSIcZIcSUcZU
cSEcZEcSOcZOcTAcDAcTIcDIcxgTUcTUcDUcTEcDEcTOcDOcNAcNIcNUcNEcNOcHAcBAcPAcHIcBIcPIcHUcBUcPUcHEcBEcPE
cHOcBOcPOcMAcMIcMUcMEcMOcxgYAcYAcxgYUcYUcxgYOcYOcRAcRIcRUcREcROcxgWAcWAcWIcWEcWOcNcVUcxgKAdKE"),
  (0x3099, "aodKATAKANA-HIRAGANA VOICED SOUNDtncSEMI-VOICED SOUNDtnaKATAKANA-HIRAGANA VOICED SOUNDtn
bSEMI-VOICED SOUNDtnaHIRAGANA ITERATIONtnbVOICED ITERATIONtnbphYORIaKATAKANA-HIRAGANApnHYPHEN
asltaxgAcAcxgIcIcxgUcUcxgEcEcxgOcOcKAcGAcKIcGIcKUcGUcKEcGEcKOcGOcSAcZAcSIcZIcSUcZUcSEcZEcSOcZOcTAcDA
cTIcDIcxgTUcTUcDUcTEcDEcTOcDOcNAcNIcNUcNEcNOcHAcBAcPAcHIcBIcPIcHUcBUcPUcHEcBEcPEcHOcBOcPOcMAcMIcMU
cMEcMOcxgYAcYAcxgYUcYUcxgYOcYOcRAcRIcRUcREcROcxgWAcWAcWIcWEcWOcNcVUcxgKAdKEcVAcVIcVEcVObtspj
aKATAKANA-HIRAGANA PROLONGED SOUNDtnaslITERATIONtnbVOICED ITERATIONtnbphKOTO"),
  (0x3105, "aBOPOMOFOtaBcPcMcFcDcTcNcLcGcKcHcJcQcXcZHcCHcSHcRcZcCcScAcOcEcEHcAIcEIcAUcOUcANcENcANG
cENGcERcIcUcIUcVcNGcGNcIHcOzvpjmbcNN"),
  (0x3131, "aHANGULtaKIYEOKcSSANGKIYEOKcKIYEOK-SIOScNIEUNcNIEUN-CIEUCcNIEUN-HIEUHcTIKEUTcSSANGTIKEUT
cRIEULcRIEUL-KIYEOKcRIEUL-MIEUMcRIEUL-PIEUPcRIEUL-SIOScRIEUL-THIEUTHcRIEUL-PHIEUPHcRIEUL-HIEUHcMIEUM
cPIEUPcSSANGPIEUPcPIEUP-SIOScSIOScSSANGSIOScIEUNGcCIEUCcSSANGCIEUCcCHIEUCHcKHIEUKHcTHIEUTHcPHIEUPH
cHIEUHcAcAEcYAcYAEcEOcEcYEOcYEcOcWAcWAEcOEcYOcUcWEOcWEcWIcYUcEUcYIcIbFILLERbtaSSANGNIEUN
cNIEUN-TIKEUTcNIEUN-SIOScNIEUN-PANSIOScRIEUL-KIYEOK-SIOScRIEUL-TIKEUTcRIEUL-PIEUP-SIOScRIEUL-PANSIOS
cRIEUL-YEORINHIEUHcMIEUM-PIEUPcMIEUM-SIOScMIEUM-PANSIOScKAPYEOUNMIEUMcPIEUP-KIYEOKcPIEUP-TIKEUT
cPIEUP-SIOS-KIYEOKcPIEUP-SIOS-TIKEUTcPIEUP-CIEUCcPIEUP-THIEUTHcKAPYEOUNPIEUPcKAPYEOUNSSANGPIEUP
cSIOS-KIYEOKcSIOS-NIEUNcSIOS-TIKEUTcSIOS-PIEUPcSIOS-CIEUCcPANSIOScSSANGIEUNGcYESIEUNGcYESIEUNG-SIOS
cYESIEUNG-PANSIOScKAPYEOUNPHIEUPHcSSANGHIEUHcYEORINHIEUHcYO-YAcYO-YAEcYO-IcYU-YEOcYU-YEcYU-IcARAEA
cARAEAE"),
  (0x3190, "arvANNOTATION LINKINGtncvztncuvtnczctncyltncqntncystnctstncnjtncFIRSTtncSECONDtncTHIRDtn
cFOURTHtncHEAVENtncEARTHtncMANtnaBOPOMOFOtaBUcZIcJIcGUcEEcENNcOOcONNcIRcANNcINNcUNNcIMcNGGcAINNcAUNN
cAMcOMcONGcINNNbqgtaPdTdKdHbtaGHcLHcZYbqgtaGbtaGWcKWcOEcAHaCJKxsTcWGcXGcBXGcSWcHZZcHZGcHPcHZWGcSZWG
cHZTcHZZPcHPWGcHZWcHZZZcNcHcScPcSPcDcHZcHGcSZcSWZcSTcSGcPDcPZcTNcSZZcSWGcHXWGcHZZZGcPGcQ"),
  (0x31F0, "asltaxgKUdSIdSUdTOdNUdHAdHIdHUdHEdHOdMUdRAdRIdRUdREdROaPARENTHESIZED HANGUL KIYEOKcNIEUN
cTIKEUTcRIEULcMIEUMcPIEUPcSIOScIEUNGcCIEUCcCHIEUCHcKHIEUKHcTHIEUTHcPHIEUPHcHIEUHcKIYEOK AcNIEUN A
cTIKEUT AcRIEUL AcMIEUM AcPIEUP AcSIOS AcIEUNG AcCIEUC AcCHIEUCH AcKHIEUKH AcTHIEUTH AcPHIEUPH A
cHIEUH AcCIEUC UbKOREAN CHARACTER OJEONdO HU"),
  (0x3220, "aPARENTHESIZED IDEOGRAPHuvczccylcqncqicxecwpcptcufcyectvcFIREcWATERcWOODcMETALcEARTHcSUN
cSTOCKcHAVEcSOCIETYcNAMEcSPECIALcFINANCIALcCONGRATULATIONcLABORcREPRESENTcCALLcSTUDYcSUPERVISE
cENTERPRISEcRESOURCEcALLIANCEcFESTIVALcRESTcSELFcREACHanxIDEOGRAPHvvcKINDERGARTENcSCHOOLcKOTO
bunyeONngxmczbONngxmcyjONngxmcqlONngxmcqfONngxmcSIXTY ONngxmcwqONngxmcpwONngxmaPARTNERSHIPxa
anxunzbuvdzcdyldqndqidxedwpdptdufcyjduvdzcdyldqndqibHANGUL KIYEOKcNIEUNcTIKEUTcRIEULcMIEUMcPIEUP
cSIOScIEUNGcCIEUCcCHIEUCHcKHIEUKHcTHIEUTHcPHIEUPHcHIEUHcKIYEOK AcNIEUN AcTIKEUT AcRIEUL AcMIEUM A
cPIEUP AcSIOS AcIEUNG AcCIEUC AcCHIEUCH AcKHIEUKH AcTHIEUTH AcPHIEUPH AcHIEUH A
bKOREAN CHARACTER CHAMKOdJUEUIbHANGUL IEUNG UaKOREAN STANDARDxyanxIDEOGRAPHuvczccylcqncqicxecwpcpt
cufcyectvcFIREcWATERcWOODcMETALcEARTHcSUNcSTOCKcHAVEcSOCIETYcNAMEcSPECIALcFINANCIALcCONGRATULATION
cLABORcSECRETcMALEcFEMALEcSUITABLEcEXCELLENTcPRINTcATTENTIONcITEMcRESTcCOPYcCORRECTcrocnscthcsucwb
cMEDICINEcRELIGIONcSTUDYcSUPERVISEcENTERPRISEcRESOURCEcALLIANCEcNIGHTbunyjxedwpdptdufcqlduvdzcdyldqn
dqidxedwpdptdufcqfarvTELEGRAPHxyqjJANUARYeFEBRUARYeMARCHeAPRILeMAYeJUNEeJULYeAUGUSTeSEPTEMBER
eOCTOBEReNOVEMBEReDECEMBERaxmHGbERGbEVaLIMITED LIABILITYxaanxslAcIcUcEcOcKAcKIcKUcKEcKOcSAcSIcSUcSE
cSOcTAcTIcTUcTEcTOcNAcNIcNUcNEcNOcHAcHIcHUcHEcHOcMAcMIcMUcMEcMOcYAcYUcYOcRAcRIcRUcREcROcWAcWIcWEcWO
axmERA NAME REIWAbAPAATObARUHUAbANPEAbAARUbININGUbINTIbUONbESUKUUDObEEKAAbONSUbOOMUbKAIRIbKARATTO
bKARORIIbGARONbGANMAbGIGAbGINIIbKYURIIbGIRUDAAbKIRObKIROGURAMUbKIROMEETORUbKIROWATTObGURAMU
bGURAMUTONbKURUZEIRObKUROONEbKEESUbKORUNAbKOOPObSAIKURUbSANTIIMUbSIRINGUbSENTIbSENTObDAASUbDESIbDORU
bTONbNANObNOTTObHAITUbPAASENTObPAATUbBAARERUbPIASUTORUbPIKURUbPIKObBIRUbHUARADDObHUIITObBUSSYERU
bHURANbHEKUTAARUbPESObPENIHIbHERUTUbPENSUbPEEZIbBEETAbPOINTObBORUTObHONbPONDObHOORUbHOONbMAIKURO
bMAIRUbMAHHAbMARUKUbMANSYONbMIKURONbMIRIbMIRIBAARUbMEGAbMEGATONbMEETORUbYAADObYAARUbYUANbRITTORU
bRIRAbRUPIIbRUUBURUbREMUbRENTOGENbWATTOarvTELEGRAPHxyqjHOURzzfuvfzcfylfqnfqifxefwpfptfuffyefELEVEN
fTWELVEfTHIRTEENfFOURTEENfFIFTEENfSIXTEENfSEVENTEENfEIGHTEENfNINETEENfzbfTWENTY-ONEfTWENTY-TWO
fTWENTY-THREEfTWENTY-FOURaxmHPAbDAbAUbmzbOVbPCbDMcxncCUBEDbIUbERA NAME HEISEIdSYOUWAdTAISYOUdMEIZI
bCORPORATIONbPA AMPSbNAbMU AbMAbKAbKBbMBbGBbCALbKCALbPFbNFbMU FcGbMGbKGbHZbKHZbMHZbGHZbTHZbMU LbML
bDLbKLbFMbNMbMU MbMMbCMbKMbMMxnbCMxnbMxnbKMxnbMM CUBEDbCM CUBEDbM CUBEDbKM CUBEDbMvaSexnbPAbKPAbMPA
bGPAbRADcvaSexnbPSbNSbMU SbMSbPVbNVbMU VbMVbKVbMV MEGAbPWbNWbMU WbMWbKWbMW MEGAbK OHMbM OHMbAMbBQbCC
bCDbCvaKGbCObDBbGYbHAbHPbINbKKbKMnpbKTbLMbLNbLOGbLXbMBxgbMILbMOLbPHbPMbPPMbPRbSRbSVbWBbVvaMbAvaM
arvTELEGRAPHxyqjDAYuvfzcfylfqnfqifxefwpfptfuffyefELEVENfTWELVEfTHIRTEENfFOURTEENfFIFTEENfSIXTEEN
fSEVENTEENfEIGHTEENfNINETEENfzbfTWENTY-ONEfTWENTY-TWOfTWENTY-THREEfTWENTY-FOURfTWENTY-FIVE
fTWENTY-SIXfTWENTY-SEVENfTWENTY-EIGHTfTWENTY-NINEfyjfTHIRTY-ONEaxmGAL"),
  (0x4DC0, "aHEXAGRAMqjyhCREATIVE HEAVENdRECEPTIVE EARTHcDIFFICULTY ATyhBEGINNINGcYOUTHFUL FOLLY
cWAITINGcCONFLICTcyhARMYcHOLDING TOGETHERcxgTAMINGcTREADINGcPEACEcSTANDSTILLcFELLOWSHIP
cGREAT POSSESSIONcMODESTYcENTHUSIASMcFOLLOWINGcWORK ONyhDECAYEDcAPPROACHcCONTEMPLATIONcBITINGym
cGRACEcSPLITTING APARTcRETURNcINNOCENCEcGREAT TAMINGctwCORNERScGREAT PREPONDERANCEcyhABYSMAL WATER
dCLINGING FIREcINFLUENCEcDURATIONcRETREATcGREAT POWERcPROGRESScDARKENING OFyhtccyhFAMILYcOPPOSITION
cOBSTRUCTIONcDELIVERANCEcDECREASEcINCREASEcBREAKTHROUGHcCOMING TO MEETcGATHERING TOGETHER
cPUSHING UPWARDcOPPRESSIONcyhWELLcREVOLUTIONcyhCAULDRONdAROUSING THUNDERdKEEPING STILL MOUNTAIN
cDEVELOPMENTcyhMARRYING MAIDENcABUNDANCEcyhWANDERERdGENTLE WINDdJOYOUS LAKEcDISPERSIONcLIMITATION
cINNER TRUTHcxgPREPONDERANCEcAFTER COMPLETIONcBEFORE COMPLETION"),
  (0xA000, "aYIxxITcIXcIcIPcIETcIEXcIEcIEPcATcAXcAcAPcUOXcUOcUOPcOTcOXcOcOPcEXcEcWUcBITcBIXcBIcBIP
cBIETcBIEXcBIEcBIEPcBATcBAXcBAcBAPcBUOXcBUOcBUOPcBOTcBOXcBOcBOPcBEXcBEcBEPcBUTcBUXcBUcBUPcBURXcBUR
cBYTcBYXcBYcBYPcBYRXcBYRcPITcPIXcPIcPIPcPIEXcPIEcPIEPcPATcPAXcPAcPAPcPUOXcPUOcPUOPcPOTcPOXcPOcPOP
cPUTcPUXcPUcPUPcPURXcPURcPYTcPYXcPYcPYPcPYRXcPYRcBBITcBBIXcBBIcBBIPcBBIETcBBIEXcBBIEcBBIEPcBBATcBBAX
cBBAcBBAPcBBUOXcBBUOcBBUOPcBBOTcBBOXcBBOcBBOPcBBEXcBBEcBBEPcBBUTcBBUXcBBUcBBUPcBBURXcBBURcBBYTcBBYX
cBBYcBBYPcNBITcNBIXcNBIcNBIPcNBIEXcNBIEcNBIEPcNBATcNBAXcNBAcNBAPcNBOTcNBOXcNBOcNBOPcNBUTcNBUXcNBU
cNBUPcNBURXcNBURcNBYTcNBYXcNBYcNBYPcNBYRXcNBYRcHMITcHMIXcHMIcHMIPcHMIEXcHMIEcHMIEPcHMATcHMAXcHMA
cHMAPcHMUOXcHMUOcHMUOPcHMOTcHMOXcHMOcHMOPcHMUTcHMUXcHMUcHMUPcHMURXcHMURcHMYXcHMYcHMYPcHMYRXcHMYRcMIT
cMIXcMIcMIPcMIEXcMIEcMIEPcMATcMAXcMAcMAPcMUOTcMUOXcMUOcMUOPcMOTcMOXcMOcMOPcMEXcMEcMUTcMUXcMUcMUP
cMURXcMURcMYTcMYXcMYcMYPcFITcFIXcFIcFIPcFATcFAXcFAcFAPcFOXcFOcFOPcFUTcFUXcFUcFUPcFURXcFURcFYTcFYXcFY
cFYPcVITcVIXcVIcVIPcVIETcVIEXcVIEcVIEPcVATcVAXcVAcVAPcVOTcVOXcVOcVOPcVEXcVEPcVUTcVUXcVUcVUPcVURXcVUR
cVYTcVYXcVYcVYPcVYRXcVYRcDITcDIXcDIcDIPcDIEXcDIEcDIEPcDATcDAXcDAcDAPcDUOXcDUOcpjcDOXcDOcDOPcDEXcDE
cDEPcDUTcDUXcDUcDUPcDURXcDURcTITcTIXcTIcTIPcTIEXcTIEcTIEPcTATcTAXcTAcTAPcTUOTcTUOXcTUOcTUOPcTOTcTOX
cTOcyscTEXcTEcTEPcTUTcTUXcTUcTUPcTURXcTURcDDITcDDIXcDDIcDDIPcDDIEXcDDIEcDDIEPcDDATcDDAXcovcDDAP
cDDUOXcDDUOcDDUOPcDDOTcDDOXcDDOcDDOPcDDEXcDDEcDDEPcDDUTcDDUXcDDUcDDUPcDDURXcDDURcNDITcNDIXcNDIcNDIP
cNDIEXcNDIEcNDATcNDAXcNDAcNDAPcNDOTcNDOXcNDOcNDOPcNDEXcNDEcNDEPcNDUTcNDUXcNDUcNDUPcNDURXcNDURcHNIT
cHNIXcHNIcHNIPcHNIETcHNIEXcHNIEcHNIEPcHNATcHNAXcHNAcHNAPcHNUOXcHNUOcHNOTcHNOXcHNOPcHNEXcHNEcHNEP
cHNUTcNITcNIXcNIcNIPcNIEXcNIEcNIEPcNAXcNAcNAPcNUOXcNUOcNUOPcukcNOXcNOcNOPcNEXcNEcNEPcNUTcNUXcNUcNUP
cNURXcNURcHLITcHLIXcHLIcHLIPcHLIEXcHLIEcHLIEPcHLATcHLAXcHLAcHLAPcHLUOXcHLUOcHLUOPcHLOXcHLOcHLOPcHLEX
cHLEcHLEPcHLUTcHLUXcHLUcHLUPcHLURXcHLURcHLYTcHLYXcHLYcHLYPcHLYRXcHLYRcLITcLIXcLIcLIPcLIETcLIEXcLIE
cLIEPcLATcLAXcLAcLAPcLUOTcLUOXcLUOcLUOPcLOTcLOXcLOcLOPcLEXcLEcLEPcLUTcLUXcLUcLUPcLURXcLURcLYTcLYXcLY
cLYPcLYRXcLYRcGITcGIXcGIcGIPcGIETcGIEXcGIEcGIEPcGATcGAXcGAcGAPcGUOTcGUOXcGUOcGUOPcGOTcGOXcGOcGOPcGET
cGEXcGEcGEPcGUTcGUXcGUcGUPcGURXcGURcKITcKIXcKIcKIPcKIEXcKIEcKIEPcKATcKAXcKAcKAPcKUOXcKUOcKUOPcKOT
cKOXcKOcKOPcKETcKEXcKEcKEPcKUTcKUXcKUcKUPcKURXcKURcGGITcGGIXcGGIcGGIEXcGGIEcGGIEPcGGATcGGAXcGGAcGGAP
cGGUOTcGGUOXcGGUOcGGUOPcGGOTcGGOXcGGOcGGOPcGGETcGGEXcGGEcGGEPcGGUTcGGUXcGGUcGGUPcGGURXcGGURcMGIEX
cMGIEcMGATcMGAXcMGAcMGAPcMGUOXcMGUOcMGUOPcMGOTcMGOXcMGOcMGOPcMGEXcMGEcMGEPcMGUTcMGUXcMGUcMGUPcMGURX
cMGURcHXITcHXIXcHXIcHXIPcHXIETcHXIEXcHXIEcHXIEPcHXATcHXAXcHXAcHXAPcHXUOTcHXUOXcHXUOcHXUOPcHXOTcHXOX
cHXOcHXOPcHXEXcHXEcHXEPcNGIEXcNGIEcNGIEPcNGATcNGAXcuecNGAPcNGUOTcNGUOXcNGUOcNGOTcNGOXcNGOcNGOPcNGEX
cNGEcNGEPcHITcHIEXcHIEcHATcHAXcHAcHAPcHUOTcHUOXcHUOcHUOPcHOTcHOXcHOcHOPcHEXcHEcHEPcWATcWAXcWAcWAP
cWUOXcWUOcWUOPcWOXcWOcWOPcWEXcWEcWEPcZITcZIXcZIcZIPcZIEXcZIEcZIEPcZATcZAXcZAcZAPcZUOXcZUOcZUOPcZOT
cZOXcZOcZOPcZEXcZEcZEPcZUTcZUXcZUcZUPcZURXcZURcZYTcZYXcZYcZYPcZYRXcZYRcCITcCIXcCIcCIPcCIETcCIEXcCIE
cCIEPcCATcCAXcCAcCAPcCUOXcCUOcCUOPcCOTcCOXcCOcCOPcCEXcCEcCEPcCUTcCUXcCUcCUPcCURXcCURcCYTcCYXcCYcCYP
cCYRXcCYRcZZITcZZIXcZZIcZZIPcZZIETcZZIEXcZZIEcZZIEPcZZATcZZAXcZZAcZZAPcZZOXcZZOcZZOPcZZEXcZZEcZZEP
cZZUXcZZUcZZUPcZZURXcZZURcZZYTcZZYXcZZYcZZYPcZZYRXcZZYRcNZITcNZIXcNZIcNZIPcNZIEXcNZIEcNZIEPcNZAT
cNZAXcNZAcNZAPcNZUOXcNZUOcNZOXcNZOPcNZEXcNZEcNZUXcNZUcNZUPcNZURXcNZURcNZYTcNZYXcNZYcNZYPcNZYRXcNZYR
cSITcxecSIcSIPcSIEXcSIEcSIEPcSATcSAXcSAcSAPcSUOXcSUOcSUOPcSOTcSOXcSOcSOPcSEXcSEcSEPcSUTcSUXcSUcSUP
cSURXcSURcSYTcSYXcSYcSYPcSYRXcSYRcSSITcSSIXcSSIcSSIPcSSIEXcSSIEcSSIEPcSSATcSSAXcxocSSAPcSSOTcSSOX
cSSOcSSOPcSSEXcSSEcSSEPcSSUTcSSUXcSSUcSSUPcSSYTcSSYXcSSYcSSYPcSSYRXcSSYRcZHATcZHAXcZHAcZHAPcZHUOX
cZHUOcZHUOPcZHOTcZHOXcZHOcZHOPcZHETcZHEXcZHEcZHEPcZHUTcZHUXcZHUcZHUPcZHURXcZHURcZHYTcZHYXcZHYcZHYP
cZHYRXcZHYRcCHATcCHAXcntcCHAPcCHUOTcCHUOXcCHUOcCHUOPcCHOTcCHOXcCHOcCHOPcCHETcCHEXcCHEcCHEPcCHUXcCHU
cCHUPcCHURXcCHURcCHYTcCHYXcCHYcCHYPcCHYRXcCHYRcRRAXcRRAcRRUOXcRRUOcRROTcRROXcRROcRROPcRRETcRREXcRRE
cRREPcRRUTcRRUXcRRUcRRUPcRRURXcRRURcRRYTcRRYXcRRYcRRYPcRRYRXcRRYRcNRATcNRAXcNRAcNRAPcNROXcNROcNROP
cNRETcNREXcNREcNREPcNRUTcNRUXcNRUcNRUPcNRURXcNRURcNRYTcNRYXcNRYcNRYPcNRYRXcNRYRcSHATcSHAXcwrcSHAP
cSHUOXcSHUOcSHUOPcSHOTcSHOXcSHOcSHOPcSHETcSHEXcSHEcSHEPcSHUTcSHUXcSHUcSHUPcSHURXcSHURcSHYTcSHYXcSHY
cSHYPcSHYRXcSHYRcRATcRAXcRAcRAPcRUOXcRUOcRUOPcROTcROXcROcROPcREXcREcREPcRUTcRUXcRUcRUPcRURXcRURcRYT
cRYXcRYcRYPcRYRXcRYRcJITcJIXcJIcJIPcJIETcJIEXcJIEcJIEPcJUOTcJUOXcJUOcJUOPcJOTcJOXcJOcJOPcJUTcJUXcJU
cJUPcJURXcJURcJYTcJYXcJYcJYPcJYRXcJYRcQITcQIXcQIcQIPcQIETcQIEXcQIEcQIEPcQUOTcQUOXcQUOcQUOPcQOTcQOX
cQOcQOPcQUTcQUXcQUcQUPcQURXcQURcQYTcQYXcQYcQYPcQYRXcQYRcJJITcJJIXcJJIcJJIPcJJIETcJJIEXcJJIEcJJIEP
cJJUOXcJJUOcJJUOPcJJOTcJJOXcJJOcJJOPcJJUTcJJUXcJJUcJJUPcJJURXcJJURcJJYTcJJYXcJJYcJJYPcNJITcNJIXcNJI
cNJIPcNJIETcNJIEXcNJIEcNJIEPcNJUOXcNJUOcNJOTcNJOXcNJOcNJOPcNJUXcNJUcNJUPcNJURXcNJURcNJYTcNJYXcNJY
cNJYPcNJYRXcNJYRcNYITcNYIXcNYIcNYIPcNYIETcNYIEXcNYIEcNYIEPcNYUOXcNYUOcNYUOPcNYOTcNYOXcNYOcNYOPcNYUT
cNYUXcNYUcNYUPcXITcXIXcXIcXIPcXIETcXIEXcXIEcXIEPcXUOXcXUOcXOTcXOXcXOcXOPcXYTcXYXcXYcXYPcXYRXcXYRcYIT
cYIXcYIcYIPcYIETcYIEXcYIEcYIEPcYUOTcYUOXcYUOcYUOPcYOTcYOXcYOcYOPcYUTcYUXcYUcYUPcYURXcYURcYYTcYYXcYY
cYYPcYYRXcYYR"),
  (0xA490, "aYI RADICAL QOTcLIcKITcNYIPcCYPcSSIcGGOPcGEPcMIcHXITcLYRcBBUTcMOPcYOcPUTcHXUOcTATcGAcZUP
cCYTcDDURcBURcGGUOcNYOPcTUcOPcJJUTcZOTcPYTcHMOcYITcVURcSHYcVEPcZAcJOcNZUPcJJYcGOTcJJIEcWOcDUcSHUR
cLIEcCYcCUOPcCIPcHXOPcSHATcZURcSHOPcCHEcZZIETcNBIEcKE"),
  (0xA4D0, "aLISUtaBAcPAcvicDAcTAcygcGAcKAcsmcJAcCAcntcDZAcTSAcTSHAcMAcNAcLAcSAcZHAcZAcuecHAcXAcHHA
cFAcWAcwrcYAcqtcAcAEcEcEUcIcOcUcUEcUHcOEcyqMYA TIdNA POdMYA CYAeBOeNAeJEUbvqoecqqxqaVAIxxEEcEENcHEE
cWEEcWEENcPEEcBHEEcBEEcMBEEcKPEEcMGBEEcGBEEcFEEcVEEcTEEcTHEEcDHEEcDHHEEcLEEcREEcDEEcNDEEcSEEcSHEE
cZEEcZHEEcCEEcJEEcNJEEcYEEcKEEcNGGEEcGEEcMEEcNEEcNYEEcIcINcHIcHINcWIcWINcPIcBHIcBIcMBIcKPIcMGBIcGBI
cFIcVIcTIcTHIcDHIcDHHIcLIcRIcDIcNDIcSIcSHIcZIcZHIcCIcJIcNJIcYIcKIcNGGIcGIcMIcNIcNYIcAcANcNGANcHAcHAN
cWAcWANcPAcnfcBAcMBAcKPAcKPANcMGBAcGBAcFAcVAcTAcygcpacDHHAcLAcRAcDAcNDAcSAcwrcZAcZHAcCAcJAcNJAcYAcKA
cKANcNGGAcGAcMAcNAcupcOOcOONcHOOcWOOcWOONcPOOcBHOOcBOOcMBOOcKPOOcMGBOOcGBOOcFOOcVOOcTOOcTHOOcDHOO
cDHHOOcLOOcROOcDOOcNDOOcSOOcSHOOcZOOcZHOOcCOOcJOOcNJOOcYOOcKOOcNGGOOcGOOcMOOcNOOcNYOOcUcUNcHUcHUNcWU
cWUNcPUcBHUcBUcMBUcKPUcMGBUcGBUcFUcVUcTUcTHUcDHUcDHHUcLUcRUcDUcNDUcSUcSHUcZUcZHUcCUcJUcNJUcYUcKU
cNGGUcGUcMUcNUcNYUcOcONcNGONcHOcHONcWOcWONcPOcBHOcBOcMBOcKPOcMGBOcGBOcGBONcFOcVOcTOcTHOcDHOcDHHOcLO
cROcDOcNDOcSOcSHOcZOcZHOcCOcJOcNJOcYOcKOcNGGOcGOcMOcNOcNYOcEcENcNGENcHEcHENcWEcWENcPEcBHEcBEcMBEcKPE
cKPENcMGBEcGBEcGBENcFEcVEcTEcyhcDHEcDHHEcLEcREcDEcNDEcSEcSHEcZEcZHEcCEcJEcNJEcYEcKEcNGGEcNGGENcGE
cGENcMEcNEcNYEcNGcLENGTHENERboebqqxqbvvtnbxxNDOLE FAdKAdSOObxyFEENGcKEENGcTINGcNIIcBANGcFAAcTAAcDANG
cDOONGcKUNGcTONGcDO-OcJONGbpgzzcuvczccylcqncqicxecwpcptcufbxxNDOLE MAdDO"),
  (0xA640, "aoqnptaZEMLYAbxgtaZEMLYAbnptaDZELObxgtaDZELObnptawaDZEbxgtawaDZEbnptasebxgtasebnptaDJERV
bxgtaDJERVbnptaMONOGRAPH UKbxgtaMONOGRAPH UKbnptaBROADutbxgtaBROADutbnptaudYERbxgtaudYER
bnptaYERUzvBACK YERbxgtaYERUzvBACK YERbnptasfYATbxgtasfYATbnptawaYUbxgtawaYUbnptasfAbxgtasfA
bnptaobteYUSbxgtaobteYUSbnptaBLENDED YUSbxgtaBLENDED YUSbnptasfobteYUSbxgtasfobteYUSbnptaYNbxgtaYN
bnptawaTSEbxgtawaTSEbnptaSOFT DEbxgtaSOFT DEbnptaSOFT ELbxgtaSOFT ELbnptaSOFT EMbxgtaSOFT EM
bnptaMONOCULAR ObxgtaMONOCULAR ObnptaBINOCULAR ObxgtaBINOCULAR ObnptapnMONOCULAR ObxgtapnMONOCULAR O
btaMULTIOCULAR OaodoqVZMETcyeMILLIONSxacruMILLIONSxacykMILLIONSxaaSLAVONICmxaodoqtaUKRAINIAN IEdIdYI
dUdHARDxadYERUdSOFTxadutcKAVYKAcPAYEROKaoqKAVYKAbPAYEROKbnptaDWEbxgtaDWEbnptaDZWEbxgtaDZWEbnptaZHWE
bxgtaZHWEbnptaCCHEbxgtaCCHEbnptaDZZEbxgtaDZZEbnptaTEzvtsrrbxgtaTEzvtsrrbnptaTWEbxgtaTWEbnptaTSWE
bxgtaTSWEbnptaTSSEbxgtaTSSEbnptaTCHEbxgtaTCHEbnptaHWEbxgtaHWEbnptaSHWEbxgtaSHWEbnptapnObxgtapnO
bnptaokObxgtaokOatutaoqHARDxadSOFTxaaodoqtaEFdsfEaBAMUMtaAcKAcUcKUcEEcREEcTAEcOcNYIcIcLAcPAcRIIcRIEE
cLEEEEcMEEEEcTAAcNDAAcNJAEMcMcSUUcMUcSHIIcSIcSHEUXcSEUXcKYEEcKETcNUAEcNUcNJUAEcYOQcSHUcYUQcYAcNSHA
cKEUXcPEUXcNJEEcNTEEcPUEcWUEcPEEcFEEcRUcLUcMIcNIcREUXcRAEcKENcNGKWAENcNGGAcuecSHOcPUAEcFUcFOMcWAcNA
cLIcPIcLOQcKOcMBENcRENcMENcMAcTIcKIcMOcMBAAcTETcKPAcyecNTUUcSAMBAcFAAMAEcKOVUUcKOGHOMbodtnKOQNDON
dTUKWENTISbNJAEMLIbqqxqbocboebwnbvvtn"),
  (0xA700, "atutaCHINESEyqYIN PINGeYANG PINGeYIN SHANGeYANG SHANGeYIN QUeYANG QUeYIN RUeYANG RU
cEXTRA-HIGHpmyqmzcropmyqmzcMIDpmyqmzcthpmyqmzcEXTRA-LOWpmyqmzcEXTRA-HIGHpmswyqmzcropmswyqmz
cMIDpmswyqmzcthpmswyqmzcEXTRA-LOWpmswyqmzcEXTRA-HIGHswyqmzcroswyqmzcMIDswyqmzcthswyqmz
cEXTRA-LOWswyqmzcpjzlmzdSLASHdrsmzctiwboimlcvxUPmtdppmtdqdtndsdqdtncthsdqdtncSTRESSmkroyqethyq
astnptaEGYPTOLOGICALmebxgtaEGYPTOLOGICALmebnptaEGYPTOLOGICAL AINbxgtaEGYPTOLOGICAL AINbnptaHENG
bxgtaHENGbnptaTZbxgtaTZbnptaTRESILLObxgtaTRESILLObnptaCUATRILLObxgtaCUATRILLObnptaCUATRILLOzvoe
bxgtaCUATRILLOzvoebtaxgnpFeSbnptaAAbxgtaAAbnptaAObxgtaAObnptaAUbxgtaAUbnptaAVbxgtaAVbnptaAVzvrsmz
bxgtaAVzvrsmzbnptaAYbxgtaAYbnptawaCzvpjbxgtawaCzvpjbnptaKzvxsbxgtaKzvxsbnptaKzvpcxsbxgtaKzvpcxs
bnptaKzvxsmkpcxsbxgtaKzvxsmkpcxsbnptaBROKEN LbxgtaBROKEN LbnptaLzvroxsbxgtaLzvroxsbnptaOzvtgxsvc
bxgtaOzvtgxsvcbnptaOzvLOOPbxgtaOzvLOOPbnptaOObxgtaOObnptaPzvxsymozbxgtaPzvxsymozbnptaPzvFLOURISH
bxgtaPzvFLOURISHbnptaPzvSQUIRRELyabxgtaPzvSQUIRRELyabnptaQzvxsymozbxgtaQzvxsymozbnptaQzvpcxs
bxgtaQzvpcxsbnptaR ROTUNDAbxgtaR ROTUNDAbnptaRUM ROTUNDAbxgtaRUM ROTUNDAbnptaVzvpcxsbxgtaVzvpcxs
bnptaVYbxgtaVYbnptaVISIGOTHIC ZbxgtaVISIGOTHIC ZbnptaTHORNzvxsbxgtaTHORNzvxsbnptaTHORNzvxsymoz
bxgtaTHORNzvxsymozbnptaVENDbxgtaVENDbnptaETbxgtaETbnptaISbxgtaISbnptaCONbxgtaCONatutaUSastxgtaDUM
dLUMdMUMdNUMdRUMbtaxgnpRUMbxgtaTUMdUMbnptasaDbxgtasaDbnptasaFbxgtasaFbnptasaGdzasaGbxgtazasaG
bnptazaLbxgtazaLbnptasaRbxgtasaRbnptasaSbxgtasaSbnptasaTbxgtasaTatutathnzmccoccwxpzxaastnptaSALTILLO
bxgtaSALTILLObnptazaHbxgtaLzvvyrrmkBELTbtaSINOLOGICALpjbnptaNzvozbxgtaNzvozbnptaCzvmzbxgtaCzvmzfverr
dHzvverrbnptaBzvFLOURISHbxgtaBzvFLOURISHbnptaFzvxsbxgtaFzvxsbnptaVOLAPUK AEbxgtaVOLAPUK AE
bnptaVOLAPUK OEbxgtaVOLAPUK OEbnptaVOLAPUK UEbxgtaVOLAPUK UEbnptaGzvuqxsbxgtaGzvuqxsbnptaKzvuqxs
bxgtaKzvuqxsbnptaNzvuqxsbxgtaNzvuqxsbnptaRzvuqxsbxgtaRzvuqxsbnptaSzvuqxsbxgtaSzvuqxsbnptaHzvrrdwauwE
dwkGdLzvBELTdxgnpIbtaxgnpQbnptazaKeTdJzvoldCHIdBETAbxgtaBETAbnptautbxgtautbnptaUzvxsbxgtaUzvxs
bnptaquAbxgtaquAbnptaquIbxgtaquIbnptaquUbxgtaquUbnptausPOLISH ObxgtausPOLISH ObnptaANGLICANA W
bxgtaANGLICANA WbnptaCzvverrdSzvrrdZzvverrdDzvwxxsvcbxgtaDzvwxxsvcbnptaSzvwxxsvcbxgtaSzvwxxsvc"),
  (0xA7D0, "astnptaobsaGbxgtaobsaG"),
  (0xA7D3, "astxgtapnTHORN"),
  (0xA7D5, "astxgtapnWYNNbnptatsSCOTS SbxgtatsSCOTS SbnptaSIGMOID SbxgtaSIGMOID S"),
  (0xA7F2, "atutanpCdFdQastnptawardHbxgtawardHbEPIGRAPHICtaSIDEWAYS IatutanpHzvxscxgtbOEasttaxgnpzaM
bEPIGRAPHICtawaFePdsdMdI LONGAdmrMaSYLOTI NAGRItaAdIcxaDVISVARActaUdEdOcxaHASANTActaKOdKHOdGOdGHO
cxamnctaCOdCHOdJOdJHOdTTOdTTHOdDDOdDDHOdTOdTHOdDOdDHOdNOdPOdPHOdBOdBHOdMOdROdLOdRROdSOdHOczqxaAeIeU
eEeOOcPOETRY MARK-1dMARK-2dMARK-3dMARK-4cxamiHASANTA"),
  (0xA830, "aujINDICqouvvterddylvuduvSIXTEENTHepudylSIXTEENTHScvttncPLACEHOLDERtncRUPEEtn
cQUANTITYtn"),
  (0xA840, "aPHAGS-PAtaKAcsmcGAcuecCAcntcJAcupcTAcygcDAcNAcPAcvicBAcMAcTSAcTSHAcDZAcWAcZHAcZAcxgAcYA
cRAcLAcwrcSAcHAcAcIcUcEcOcQAcXAcFAcGGAcEEbSUBJOINEDtaWAdYAbtayycyzcovcuhcmiYAcVOICELESSwrcVOICED HA
cASPIRATED FAbSUBJOINEDtaRAbSUPERFIXEDtaRAbtanobxcHEADtnbpnHEADtnbtnSHADcpnSHAD"),
  (0xA880, "aSAURASHTRAxamnczobtaAcAAcIcIIcUcUUczpRdRRdLdLLcEcEEcAIcOcOOcAUcKAcsmcGAcqtcuecCAcntcJA
csicupcyycyzcovcowcuhcTAcygcDAcpacNAcPAcvicBAcnfcMAcYAcRAcLAcVAcwrcxocSAcHAcLLAbogxaHAARUbzqxaAAdI
dIIdUdUUdzpReRReLeLLdEdEEdAIdOdOOdAUbxazncno"),
  (0xA8CE, "aSAURASHTRAosbpnosbpgzzcuvczccylcqncqicxecwpcptcuf"),
  (0xA8E0, "aodDEVANAGARIpgzzduvdzcdyldqndqidxedwpdptdufctaAdUdKAdNAdPAdRAdVIcxamy
aDEVANAGARIxaSPACINGnocnozncpnnozncnozcdyldmycPUSHPIKAbGAP FILLERbCARETbHEADSTROKEbxaSIDDHAMbJAIN OM
btaAYbzqxaAYaKAYAH LIpgzzduvdzcdyldqndqidxedwpdptdufctaKAdsmdGAduedSAdwrdZAdupdTAdHTAdNAdPAdvidMAdDA
dBAdRAdYAdLAdWAdygdHAdVAdCAdAdOEdIdOOczqUEdEdUdEEdOcyqPLOPHUdCALYAePLOPHUcxaCWIdSHYAaREJANGtaKAcGA
cuecTAcDAcNAcPAcBAcMAcCAcJAcupcSAcRAcLAcYAcWAcHAcMBAcNGGAcNDAcNYJAcAbzqxaIdUdEdAIdOdAUdEUdEAbogxaNG
dNdRdHbzn"),
  (0xA95F, "aREJANGwltnaHANGUL CHOSEONG TIKEUT-MIEUMcTIKEUT-PIEUPcTIKEUT-SIOScTIKEUT-CIEUC
cRIEUL-KIYEOKcRIEUL-SSANGKIYEOKcRIEUL-TIKEUTcRIEUL-SSANGTIKEUTcRIEUL-MIEUMcRIEUL-PIEUP
cRIEUL-SSANGPIEUPcRIEUL-KAPYEOUNPIEUPcRIEUL-SIOScRIEUL-CIEUCcRIEUL-KHIEUKHcMIEUM-KIYEOKcMIEUM-TIKEUT
cMIEUM-SIOScPIEUP-SIOS-THIEUTHcPIEUP-KHIEUKHcPIEUP-HIEUHcSSANGSIOS-PIEUPcIEUNG-RIEULcIEUNG-HIEUH
cSSANGCIEUC-HIEUHcSSANGTHIEUTHcPHIEUPH-HIEUHcHIEUH-SIOScSSANGYEORINHIEUH"),
  (0xA980, "aJAVANESExaPANYANGGAcCECAKcLAYARcWIGNYANbtaAcI KAWIcIcIIcUcPA CEREKcueLELETeRASWADIcEcAI
cOcKAdSASAKdMURDAcGAdMURDAcuecCAdMURDAcJAcupMURDAcJA MAHAPRANAcupcyydMAHAPRANAcovdMAHAPRANAcNA MURDA
cTAdMURDAcDAdMAHAPRANAcNAcPAdMURDAcBAdMURDAcMAcYAcRAdAGUNGcLAcWAcSA MURDAdMAHAPRANAcSAcHA
bxaCECAK TELUbzqxaTARUNGdTOLONGdWULUeMELIKdSUKUeMENDUTdTALINGdDIRGA MUREdPEPETbogxaKERETdPENGKAL
dCAKRAbPANGKONbsuRERENGGANbwbRERENGGANbPADA ANDAPcMADYAcLUHURcWINDUcPANGKATcLINGSAcLUNGSIcADEGdADEG
cPISELEHbzaPADA PISELEH"),
  (0xA9CF, "aJAVANESE PANGRANGKEPbpgzzcuvczccylcqncqicxecwpcptcuf"),
  (0xA9DE, "aJAVANESE PADA TIRTA TUMETEScISEN-ISENaMYANMARtaSHANqtdntdsiduhdnfbxaSHAN SAW
btutaSHAN REDUPLICATIONbtaTAI LAINGupeFAeGAeqteJAesieoveoweuhbTAI LAINGpgzzeuvezceyleqneqiexeewpept
eufbtaTAI LAING LLAeDAepaeBAenf"),
  (0xAA00, "aCHAMtaAcIcUcEcAIcOcKAcsmcGAcqtcNGUEcuecntcCHHAcJAcsicNHUEcNHAcNHJAcTAcygcDAcpacNUEcNA
covcPAcPPAcvicBAcnfcMUEcMAcBBAcYAcRAcLAcVAcxocSAcHAbzqxaAAdIdIIdEIdUdOEdOdAIdAUdUEbogxaYAdRAdLA
dWA"),
  (0xAA40, "aCHAMtaqgKdGdNGbogxaqgNGbtaqgCHdTdNdPdYdRdLdSSbogxaqgMeH"),
  (0xAA50, "aCHAMpgzzcuvczccylcqncqicxecwpcptcuf"),
  (0xAA5C, "aCHAMvqSPIRALcoscpnoscyxosaMYANMARtaKHAMTI GAdCAdntdJAdsidupdyydyzdovdowdpadNAdSAdHAdHHA
dFAbtutaKHAMTI REDUPLICATIONbtaKHAMTI XAdZAdRAbLOGOGRAM KHAMTI OAYdQNdHMbxyAITONqdduvdzcbtaAITON RA
bxaPAO KARENyqcTAI LAING TONE-2eTONE-5btaSHWE PALAUNGntewraTAI VIETtathKOdroKOdthKHOdroKHOdthKHHO
droKHHOdthGOdroGOdthNGOdroNGOdthCOdroCOdthCHOdroCHOdthSOdroSOdthNYOdroNYOdthDOdroDOdthTOdroTOdthTHO
droTHOdthNOdroNOdthBOdroBOdthPOdroPOdthPHOdroPHOdthFOdroFOdthMOdroMOdthYOdroYOdthROdroROdthLOdroLO
dthVOdroVOdthHOdroHOdthOdroOcMAI KANGczqAAdIdUEdUdEdOcMAI KHITczqIAdUEAdUAdAUEdAYdANdAMcyqMAI EK
eNUENGeTHOeSONG"),
  (0xAADB, "aTAI VIETxyKONdNUENGdSAMdHO HOIdKOI KOIaMEETEI MAYEKtaEdOdntdupdyydyzdovdowduhdwrdxo
czqxaIIeUUeAAIeAUeAAUcCHEIKHANcAHANG KHUDAMcANJIcxxREPETITIONtncWORD REPETITIONtnczqxazoczn"),
  (0xAB01, "aqcxxTTHUcTTHIcTTHAAcTTHEEcTTHEcTTHO"),
  (0xAB09, "aqcxxDDHUcDDHIcDDHAAcDDHEEcDDHEcDDHO"),
  (0xAB11, "aqcxxDZUcDZIcDZAAcDZEEcDZEcDZO"),
  (0xAB20, "aqcxxCCHHAcCCHHUcCCHHIcCCHHAAcCCHHEEcCCHHEcCCHHO"),
  (0xAB28, "aqcxxBBAcBBUcBBIcBBAAcBBEEcBBEcBBO"),
  (0xAB30, "astxgtaBARREDmhdA REVERSED-SCHWAdBLACKLETTER EdBARRED EdEzvFLOURISHdLENIS FdwkGzvol
dLzvsdLAZY SfpntsyoftswedMzvoldNzvoldENGzvoldBLACKLETTER OfzvxsduwOzvxsdsdOEdzaOEzvxsgrsxseO OPEN-O
gzvxsdSTIRRUP RbtaxgnpRzvwbLEGbxgtaR WITHOUT HANDLEdpnRdRzvoldpnRzvoldwkRfzvwedBASELINE ESH
dUzvwxwbLEGemzzvwxwbLEGdUIdzaUIdUzvsurrdCHIezvthwbwegsuSERIFdXzvthwbweftgsuLEGimkthwbweizvSERIF
dYzvwxwbLEGatunlzvsdnlbtaxgHENGdLzvsdLAZY SftsyodUzvsurrastxgtaSAKHA YATdsfEduwOEdUOdsdmhaqytaxgnput
astxgtaDZphzvvyrrdTSphzvvyrrdzaRzvtsyoatutaxgzaWcsuxzcwbxz"),
  (0xAB70, "aCHEROKEExgtaAdEdIdOdUdVdGAdKAdGEdGIdGOdGUdGVdHAdHEdHIdHOdHUdHVdLAdLEdLIdLOdLUdLVdMAdME
dMIdMOdMUdNAdHNAdNAHdNEdNIdNOdNUdNVdQUAdQUEdQUIdQUOdQUUdQUVdSAdSdSEdSIdSOdSUdSVdDAdTAdDEdTEdDIdTIdDO
dDUdDVdDLAdTLAdTLEdTLIdTLOdTLUdTLVdTSAdTSEdTSIdTSOdTSUdTSVdWAdWEdWIdWOdWUdWVdYAaMEETEI MAYEKtaKOK
dSAMdLAIdMITdPAdNAdCHILdTILdKHOUdNGOUdTHOUdWAIdYANGdHUKdUNdIdPHAMdATIYAdGOKdJHAMdRAIdBAdJILdDILdGHOU
dDHOUdBHAMdKOK LONSUMdLAI LONSUMdMIT LONSUMdPA LONSUMdNA LONSUMdTIL LONSUMdNGOU LONSUMdI LONSUM
czqxaONAPeINAPeANAPeYENAPeSOUNAPeUNAPeCHEINAPeNUNGcCHEIKHEIcLUM IYEKcAPUN IYEK"),
  (0xABF0, "aMEETEI MAYEKpgzzduvdzcdyldqndqidxedwpdptduf"),
  (0xD7B0, "aHANGUL JUNGSEONG O-YEOcO-O-IcYO-AcYO-AEcYO-EOcU-YEOcU-I-IcYU-AEcYU-OcEU-AcEU-EOcEU-E
cEU-OcI-YA-OcI-YAEcI-YEOcI-YEcI-O-IcI-YOcI-YUcI-IcARAEA-AcARAEA-E"),
  (0xD7CB, "aHANGUL JONGSEONG NIEUN-RIEULcNIEUN-CHIEUCHcSSANGTIKEUTcSSANGTIKEUT-PIEUPcTIKEUT-PIEUP
cTIKEUT-SIOScTIKEUT-SIOS-KIYEOKcTIKEUT-CIEUCcTIKEUT-CHIEUCHcTIKEUT-THIEUTHcRIEUL-SSANGKIYEOK
cRIEUL-KIYEOK-HIEUHcSSANGRIEUL-KHIEUKHcRIEUL-MIEUM-HIEUHcRIEUL-PIEUP-TIKEUTcRIEUL-PIEUP-PHIEUPH
cRIEUL-YESIEUNGcRIEUL-YEORINHIEUH-HIEUHcKAPYEOUNRIEULcMIEUM-NIEUNcMIEUM-SSANGNIEUNcSSANGMIEUM
cMIEUM-PIEUP-SIOScMIEUM-CIEUCcPIEUP-TIKEUTcPIEUP-RIEUL-PHIEUPHcPIEUP-MIEUMcSSANGPIEUP
cPIEUP-SIOS-TIKEUTcPIEUP-CIEUCcPIEUP-CHIEUCHcSIOS-MIEUMcSIOS-KAPYEOUNPIEUPcSSANGSIOS-KIYEOK
cSSANGSIOS-TIKEUTcSIOS-PANSIOScSIOS-CIEUCcSIOS-CHIEUCHcSIOS-THIEUTHcSIOS-HIEUHcPANSIOS-PIEUP
cPANSIOS-KAPYEOUNPIEUPcYESIEUNG-MIEUMcYESIEUNG-HIEUHcCIEUC-PIEUPcCIEUC-SSANGPIEUPcSSANGCIEUC
cPHIEUPH-SIOScPHIEUPH-THIEUTH"),
  (0xFB00, "astxgtbFFdFIdFLdFFIdFFLdtgS TdST"),
  (0xFB13, "aARMENIANxgtbMEN NOWeECHeINIdVEW NOWdMEN XEH"),
  (0xFB1D, "aHEBREWtaYODzvHIRIQbPOINT JUDEO-SPANISH VARIKAbtbYIDDISH YOD YOD PATAH
btaALTERNATIVE AYINcWIDEmedDALETdHEdKAFdLAMEDdqgMEMdRESHdTAVcALTERNATIVEvjxacwwzvwwpjeSINpjeormkwwpj
gSINpjcmezvPATAHeQAMATSeMAPIQcBETzvorcGIMELzvorcDALETzvorcHEzvMAPIQcVAVzvorcZAYINzvor"),
  (0xFB38, "aHEBREWtaTETzvorcYODzvorcqgKAFzvorcKAFzvorcLAMEDzvor"),
  (0xFB3E, "aHEBREWtaMEMzvor"),
  (0xFB40, "aHEBREWtauozvorcwizvor"),
  (0xFB43, "aHEBREWtaqgPEzvorcPEzvor"),
  (0xFB46, "aHEBREWtaTSADIzvorcQOFzvorcRESHzvorcwwzvorcTAVzvorcVAVzvHOLAMcBETzvRAFEcKAFzvRAFE
cPEzvRAFEbtbmeLAMEDamptameWASLAsgqkeqgqkcBEEHsgqkdqgqkdryqkdtpqkcPEHsgqkdqgqkdryqkdtpqkcBEHEHsgqk
dqgqkdryqkdtpqkcTTEHEHsgqkdqgqkdryqkdtpqkcTEHEHsgqkdqgqkdryqkdtpqkcTTEHsgqkdqgqkdryqkdtpqkcVEHsgqk
dqgqkdryqkdtpqkcPEHEHsgqkdqgqkdryqkdtpqkcDYEHsgqkdqgqkdryqkdtpqkcNYEHsgqkdqgqkdryqkdtpqkcTCHEHsgqk
dqgqkdryqkdtpqkcTCHEHEHsgqkdqgqkdryqkdtpqkcDDAHALsgqkdqgqkcDAHALsgqkdqgqkcDULsgqkdqgqkcDDALsgqkdqgqk
cJEHsgqkdqgqkcRREHsgqkdqgqkcKEHEHsgqkdqgqkdryqkdtpqkcGAFsgqkdqgqkdryqkdtpqkcGUEHsgqkdqgqkdryqkdtpqk
cNGOEHsgqkdqgqkdryqkdtpqkcuiGHUNNAsgqkeqgqkcRNOONsgqkdqgqkdryqkdtpqkcHEHzvzwmbsgqkgqgqkdGOALsgqk
eqgqkeryqketpqkdDOACHASHMEEsgqkeqgqkeryqketpqkczwBARREEsgqkeqgqkezvrembsgqkhqgqkbxypjmbdnbczcplmbenb
cylplmbenbevlprmbgnbcqnplmbenbcpnzlmznbczcplVERTICALLYmbfnbcwecxgTAHmbenbcWASLAmb"),
  (0xFBD3, "amptaNGsgqkdqgqkdryqkdtpqkcUsgqkdqgqkcOEsgqkdqgqkcYUsgqkdqgqkcUzvrembsgqkcVEsgqkdqgqk
cKIRGHIZ OEsgqkeqgqkdYUsgqkeqgqkcEsgqkdqgqkdryqkdtpqkcUIGHUR KAZAKH KIRGHIZmetmryqkhtpqk
btbzwzvrembzvmesgqkiqgqkhAEsgqkiqgqkhzrsgqkiqgqkhUsgqkiqgqkhOEsgqkiqgqkhYUsgqkiqgqkhEsgqkiqgqkiryqk
cUIGHUR KIRGHIZzwzvrembzvmetmsgqklqgqklryqkbtaFARSIzwsgqkeqgqkeryqketpqkbtbzwzvrembzvshsgqkhrcsgqk
htrsgqkhmetmsgqkhzwsgqkcBEHzvshsgqkercsgqkesnsgqketrsgqkemetmsgqkezwsgqkcTEHzvshsgqkercsgqkesnsgqk
etrsgqkemetmsgqkezwsgqkcTHEHzvshsgqketrsgqkemetmsgqkezwsgqkcshzvrcsgqketrsgqkcrczvshsgqketrsgqk
csnzvshsgqkercsgqketrsgqkcwmzvshsgqkercsgqkesnsgqketrsgqkcSADzvrcsgqketrsgqkcDADzvshsgqkercsgqk
esnsgqketrsgqkcTAHzvrcsgqketrsgqkcZAHzvtrsgqkcAINzvshsgqketrsgqkcGHAINzvshsgqketrsgqkcFEHzvshsgqk
ercsgqkesnsgqketrsgqkemetmsgqkezwsgqkcQAFzvrcsgqketrsgqkemetmsgqkezwsgqkcKAFzvmesgqkeshsgqkercsgqk
esnsgqkesqsgqketrsgqkemetmsgqkezwsgqkcsqzvshsgqkercsgqkesnsgqketrsgqkemetmsgqkezwsgqkctrzvshsgqk
ercsgqkesnsgqketrsgqkemetmsgqkezwsgqkcuizvshsgqkercsgqkesnsgqketrsgqkemetmsgqkezwsgqkcHEHzvshsgqk
etrsgqkemetmsgqkezwsgqkczwzvshsgqkercsgqkesnsgqketrsgqkemetmsgqkezwsgqkcTHALzvxvmesgqkcREHzvxvmesgqk
cmetmzvxvmesgqkcSHADDAzvDAMMATANsgqkeKASRATANsgqkeFATHAsgqkeDAMMAsgqkeKASRAsgqkexvmesgqk
czwzvrembzvREHqgqkhZAINqgqkhtrqgqkhuiqgqkhmetmqgqkhzwqgqkcBEHzvREHqgqkeZAINqgqketrqgqkeuiqgqk
emetmqgqkezwqgqkcTEHzvREHqgqkeZAINqgqketrqgqkeuiqgqkemetmqgqkezwqgqkcTHEHzvREHqgqkeZAINqgqketrqgqk
euiqgqkemetmqgqkezwqgqkcFEHzvmetmqgqkezwqgqkcQAFzvmetmqgqkezwqgqkcKAFzvmeqgqkesqqgqketrqgqkemetmqgqk
ezwqgqkcsqzvtrqgqkemetmqgqkezwqgqkctrzvmeqgqketrqgqkcuizvREHqgqkeZAINqgqketrqgqkeuiqgqkemetmqgqk
ezwqgqkcmetmzvxvmeqgqkczwzvREHqgqkeZAINqgqketrqgqkeuiqgqkemetmqgqkezwqgqkerembzvshryqkhrcryqkhsnryqk
htrryqkhHEHryqkcBEHzvshryqkercryqkesnryqketrryqkeHEHryqkcTEHzvshryqkercryqkesnryqketrryqkeHEHryqk
cTHEHzvtrryqkcshzvrcryqketrryqkcrczvshryqketrryqkcsnzvshryqketrryqkcwmzvshryqkercryqkesnryqketrryqk
cSADzvrcryqkesnryqketrryqkcDADzvshryqkercryqkesnryqketrryqkcTAHzvrcryqkcZAHzvtrryqkcAINzvshryqk
etrryqkcGHAINzvshryqketrryqkcFEHzvshryqkercryqkesnryqketrryqkcQAFzvrcryqketrryqkcKAFzvshryqkercryqk
esnryqkesqryqketrryqkcsqzvshryqkercryqkesnryqketrryqkeHEHryqkctrzvshryqkercryqkesnryqketrryqk
cuizvshryqkercryqkesnryqketrryqkeHEHryqkcHEHzvshryqketrryqkexvmeryqkczwzvshryqkercryqkesnryqketrryqk
eHEHryqkerembzvtrtpqkhHEHtpqkcBEHzvtrtpqkeHEHtpqkcTEHzvtrtpqkeHEHtpqkcTHEHzvtrtpqkeHEHtpqk
cwmzvtrtpqkeHEHtpqkcwuzvtrtpqkeHEHtpqkcKAFzvsqtpqketrtpqkcsqzvtrtpqkcuizvtrtpqkeHEHtpqkczwzvtrtpqk
eHEHtpqkcSHADDAzvFATHAtpqkeDAMMAtpqkeKASRAtpqkcTAHzvmetmsgqkezwsgqkcAINzvmetmsgqkezwsgqk
cGHAINzvmetmsgqkezwsgqkcwmzvmetmsgqkezwsgqkcwuzvmetmsgqkezwsgqkcrczvmetmsgqkezwsgqkcshzvmetmsgqk
ezwsgqkcsnzvmetmsgqkezwsgqkcSADzvmetmsgqkezwsgqkcDADzvmetmsgqkezwsgqkcwuzvshsgqkercsgqkesnsgqk
etrsgqkeREHsgqkcwmzvREHsgqkcSADzvREHsgqkcDADzvREHsgqkcTAHzvmetmqgqkezwqgqkcAINzvmetmqgqkezwqgqk
cGHAINzvmetmqgqkezwqgqkcwmzvmetmqgqkezwqgqkcwuzvmetmqgqkezwqgqkcrczvmetmqgqkezwqgqkcshzvmetmqgqk
ezwqgqkcsnzvmetmqgqkezwqgqkcSADzvmetmqgqkezwqgqkcDADzvmetmqgqkezwqgqkcwuzvshqgqkercqgqkesnqgqk
etrqgqkeREHqgqkcwmzvREHqgqkcSADzvREHqgqkcDADzvREHqgqkcwuzvshryqkercryqkesnryqketrryqkcwmzvHEHryqk
cwuzvHEHryqkcTAHzvtrryqkcwmzvshtpqkerctpqkesntpqkcwuzvshtpqkerctpqkesntpqkcTAHzvtrtpqkcZAHzvtrtpqk
cmezvFATHATANqgqkfsgqkaORNATEsuvfbwbvfamptbRAHIMAHU ALLAAHcRADI ALLAAHU ANHeANHAAeANHUMeANHUMAA
eANHUNNAcSALLALLAAHU ALAYHI WA-AALIHcALAYHI AS-SALAAMcALAYHIM AS-SALAAMcALAYHIMAA AS-SALAAM
cALAYHI AS-SALAATU WAS-SALAAMcQUDDISA SIRRAHcSALLALLAHU ALAYHI WAAALIHEE WA-SALLAMcALAYHAA AS-SALAAM
cTABAARAKA WA-TAAALAAcRAHIMAHUM ALLAAHcTEHzvshzvtrryqkerczvshqgqkhryqkgtrryqkesnzvtrryqketrzvshryqk
grcryqkgsnryqkcshzvtrzvrcqgqkhryqkcrczvtrzvzwqgqkgmetmqgqkcwmzvrczvshryqkeshzvrcryqkgmetmqgqk
etrzvrcqgqkhryqkgshryqkgtrqgqkhryqkcSADzvrczvrcqgqkhryqketrzvtrqgqkcwuzvrczvtrqgqkhryqkeshzvzwqgqk
etrzvsnqgqkhryqkgtrqgqkhryqkcDADzvrczvmetmqgqkesnzvtrqgqkhryqkcTAHzvtrzvrcqgqkhryqkgtrryqkgzwqgqk
cAINzvshzvtrqgqketrzvtrqgqkhryqkgmetmqgqkcGHAINzvtrzvtrqgqkgzwqgqkgmetmqgqkcFEHzvsnzvtrqgqkhryqk
cQAFzvtrzvrcqgqkgtrqgqkcsqzvrczvtrqgqkgzwqgqkgmetmqgqkeshzvshryqkhqgqkesnzvtrqgqkhryqketrzvrcqgqk
hryqkctrzvrczvshryqkgtrryqkgzwqgqkeshzvrcryqkgtrryqkesnzvshryqkgtrryqk"),
  (0xFD92, "amptbtrzvshzvsnryqkcHEHzvtrzvshryqkgtrryqkcuizvrczvtrryqkgmetmqgqkeshzvtrqgqkhryqk
gmetmqgqketrzvzwqgqkgmetmqgqkczwzvtrzvtrqgqkhryqkcBEHzvsnzvzwqgqkcTEHzvshzvzwqgqkgmetmqgqk
esnzvzwqgqkgmetmqgqketrzvzwqgqkgmetmqgqkcshzvtrzvzwqgqkerczvmetmqgqketrzvmetmqgqkcwmzvsnzvmetmqgqk
cSADzvrczvzwqgqkcwuzvrczvzwqgqkcDADzvrczvzwqgqkcsqzvshzvzwqgqketrzvzwqgqkczwzvrczvzwqgqkeshzvzwqgqk
etrzvzwqgqkctrzvtrzvzwqgqkcQAFzvtrzvzwqgqkcuizvrczvzwqgqkcQAFzvtrzvrcryqkcsqzvrczvtrryqk
cAINzvtrzvzwqgqkcKAFzvtrzvzwqgqkcuizvshzvrcryqkctrzvsnzvzwqgqkcsqzvshzvtrryqkcKAFzvtrzvtrqgqk
csqzvshzvtrqgqkcuizvshzvrcqgqkcshzvrczvzwqgqkcrczvshzvzwqgqkctrzvshzvzwqgqkcFEHzvtrzvzwqgqk
cBEHzvrczvzwqgqkcKAFzvtrzvtrryqkcAINzvshzvtrryqkcSADzvtrzvtrryqkcwmzvsnzvzwqgqkcuizvshzvzwqgqk"),
  (0xFDCF, "amptbSALAAMUHU ALAYNAA"),
  (0xFDF0, "amptbSALLA USED AS KORANICxqxasgqkcQALA USED AS KORANICxqxasgqkcALLAHsgqkcAKBARsgqk
cMOHAMMADsgqkcSALAMsgqkcRASOULsgqkcALAYHEsgqkcWASALLAMsgqkcSALLAsgqkcSALLALLAHOU ALAYHE WASALLAM
cJALLAJALALOUHOUaRIALxaamptbBISMILLAH AR-RAHMAN AR-RAHEEMcSUBHAANAHU WA TAAALAAcAZZA WA JALL"),
  (0xFE10, "aPRESENTATIONqkqjzloeervoefqqxqeocewneqdtnevvtnesuzuLENTICULARnkewbzuLENTICULAR BRAKCET
ersELLIPSIS"),
  (0xFE20, "aodtbsurdcwbrdbpnyosurddwbrdbtksurdcwbrdbCONJOININGtkbtbsurdnbcwbrdnbbyosurdnbcwbrdnb
btksurdnbcwbrdnbbCONJOININGtknbboqTITLOsurddwbrdaPRESENTATIONqkqjzlzcpjLEADEReEMoteENotethtd
eWAVYthtdesuvfewbvfesuoonkewboonkesuytwvnkewbytwvnkesungLENTICULARnkewbngLENTICULARnkesupnmlnk
ewbpnmlnkesumlnkewbmlnkesuoinkewboinkesuzuoinkewbzuoinkaSESAMEpjazuSESAMEpjaPRESENTATIONqkqjzlsuxmnk
ewbxmnkaDASHED OVERLINEaCENTRELINE OVERLINEaWAVY OVERLINEapnWAVY OVERLINEaDASHEDthtdaCENTRELINEthtd
aWAVYthtdaxgoebrvoebqqxq"),
  (0xFE54, "axgwnbocbvvtnbqdtnbEMotbsuvfbwbvfbsuoonkbwboonkbsuytwvnkbwbytwvnkbunxabAMPERSANDbmxbvjxa
bHYPHEN-MINUSbszxabqxxabpzxa"),
  (0xFE68, "axgvzxibDOLLARxabPERCENTxabCOMMERCIAL AT"),
  (0xFE70, "ampFATHATANsgqkbTATWEELzvFATHATANmbbDAMMATANsgqkbyaFRAGMENTbKASRATANsgqk"),
  (0xFE76, "ampFATHAsgqkctpqkbDAMMAsgqkctpqkbKASRAsgqkctpqkbSHADDAsgqkctpqkbSUKUNsgqkctpqkbtaresgqk
cmezvMADDAmbsgqkgqgqkerembsgqkgqgqkczrzvrembsgqkgqgqkcmezvrenbsgqkgqgqkczwzvrembsgqkgqgqkgryqkgtpqk
cmesgqkdqgqkcBEHsgqkdqgqkdryqkdtpqkcTEH MARBUTAsgqkeqgqkdsgqkdqgqkdryqkdtpqkcTHEHsgqkdqgqkdryqkdtpqk
cshsgqkdqgqkdryqkdtpqkcrcsgqkdqgqkdryqkdtpqkcsnsgqkdqgqkdryqkdtpqkcDALsgqkdqgqkcTHALsgqkdqgqk
cREHsgqkdqgqkcZAINsgqkdqgqkcwmsgqkdqgqkdryqkdtpqkcwusgqkdqgqkdryqkdtpqkcSADsgqkdqgqkdryqkdtpqk
cDADsgqkdqgqkdryqkdtpqkcTAHsgqkdqgqkdryqkdtpqkcZAHsgqkdqgqkdryqkdtpqkcAINsgqkdqgqkdryqkdtpqk
cGHAINsgqkdqgqkdryqkdtpqkcFEHsgqkdqgqkdryqkdtpqkcQAFsgqkdqgqkdryqkdtpqkcKAFsgqkdqgqkdryqkdtpqk
csqsgqkdqgqkdryqkdtpqkctrsgqkdqgqkdryqkdtpqkcuisgqkdqgqkdryqkdtpqkcHEHsgqkdqgqkdryqkdtpqkczrsgqk
dqgqkcmetmsgqkeqgqkczwsgqkdqgqkdryqkdtpqkbtbsqzvmezvMADDAmbsgqkiqgqkgrembsgqkiqgqkhnbsgqkiqgqkfsgqk
fqgqk"),
  (0xFEFF, "azzWIDTH NO-BREAKxk"),
  (0xFF01, "aFULLWIDTHqdtnbvwtnbunxabDOLLARxabPERCENTxabAMPERSANDbmobsuvfbwbvfbmxbvjxaboe
bHYPHEN-MINUSbqqxqbxibpgzzcuvczccylcqncqicxecwpcptcufbocbwnbszxabpzxabqxxabvvtnbCOMMERCIAL AT
bstnptaAeBeCeDeEeFeGeHeIeJeKeLeMeNeOePeQeReSeTeUeVeWeXeYeZbsuxmnkbvzxibwbxmnkbnzmcbthtdbqwmcbstxgtaA
eBeCeDeEeFeGeHeIeJeKeLeMeNeOePeQeReSeTeUeVeWeXeYeZbsuoonkbzltdbwboonkbyobsuzuvfbwbzuvf
aHALFWIDTHrvqqxqbsuoinkbwboinkbrvoebsltspjctaWOdxgAeIeUeEeOeYAeYUeYOeTU
bKATAKANA-HIRAGANA PROLONGED SOUNDtnbsltaAdIdUdEdOdKAdKIdKUdKEdKOdSAdSIdSUdSEdSOdTAdTIdTUdTEdTOdNA
dNIdNUdNEdNOdHAdHIdHUdHEdHOdMAdMIdMUdMEdMOdYAdYUdYOdRAdRIdRUdREdROdWAdNcVOICED SOUNDtn
cSEMI-VOICED SOUNDtnbHANGUL FILLERctaKIYEOKdSSANGKIYEOKdKIYEOK-SIOSdNIEUNdNIEUN-CIEUCdNIEUN-HIEUH
dTIKEUTdSSANGTIKEUTdRIEULdRIEUL-KIYEOKdRIEUL-MIEUMdRIEUL-PIEUPdRIEUL-SIOSdRIEUL-THIEUTH
dRIEUL-PHIEUPHdRIEUL-HIEUHdMIEUMdPIEUPdSSANGPIEUPdPIEUP-SIOSdSIOSdSSANGSIOSdIEUNGdCIEUCdSSANGCIEUC
dCHIEUCHdKHIEUKHdTHIEUTHdPHIEUPHdHIEUH"),
  (0xFFC2, "aHALFWIDTH HANGULtaAdAEdYAdYAEdEOdE"),
  (0xFFCA, "aHALFWIDTH HANGULtaYEOdYEdOdWAdWAEdOE"),
  (0xFFD2, "aHALFWIDTH HANGULtaYOdUdWEOdWEdWIdYU"),
  (0xFFDA, "aHALFWIDTH HANGULtaEUdYIdI"),
  (0xFFE0, "aFULLWIDTH CENTxabPOUNDxabukxabtkbBROKENmzbYENxabWONxa"),
  (0xFFE8, "aHALFWIDTH FORMStczlbsxmtbzimtbwdmtbprmtbngxmbzunw"),
  (0xFFF9, "aINTERLINEAR ANNOTATION ANCHORcwocTERMINATORaOBJECT REPLACEMENT CHARACTER
aREPLACEMENT CHARACTER")]

end EstreeEmitter.Text
