set_option autoImplicit false

/-! # Names of characters: Characters beyond the basic plane

Runs of neighbouring characters, each with the code point of the first one, in the notation of
`EstreeEmitter.Text.nameEntries`. -/

namespace EstreeEmitter.Text

/-- The names of the characters beyond the basic plane. -/
def supplementNames : List (Nat × String) := [
  (0x10000, "aLINEAR BxxB008 AdB038 EdB028 IdB061 OdB010 UdB001 DAdB045 DEdB007 DIdB014 DOdB051 DU
dB057 JAdB046 JE"),
  (0x1000D, "aLINEAR BxxB036 JOdB065 JUdB077 KAdB044 KEdB067 KIdB070 KOdB081 KUdB080 MAdB013 ME
dB073 MIdB015 MOdB023 MUdB006 NAdB024 NEdB030 NIdB052 NOdB055 NUdB003 PAdB072 PEdB039 PIdB011 PO
dB050 PUdB016 QAdB078 QEdB021 QIdB032 QO"),
  (0x10028, "aLINEAR BxxB060 RAdB027 REdB053 RIdB002 ROdB026 RUdB031 SAdB009 SEdB041 SIdB012 SO
dB058 SUdB059 TAdB004 TEdB037 TIdB005 TOdB069 TUdB054 WAdB075 WEdB040 WIdB042 WO"),
  (0x1003C, "aLINEAR BxxB017 ZAdB074 ZE"),
  (0x1003F, "aLINEAR BxxB020 ZOdB025 A2dB043 A3dB085 AUdB071 DWEdB090 DWOdB048 NWAdB029 PU2dB062 PTE
dB076 RA2dB033 RA3dB068 RO2dB066 TA2dB087 TWEdB091zc"),
  (0x10050, "aLINEAR BxyB018dB019dB022dB034dB047dB049dB056dB063dB064dB079dB082dB083dB086dB089"),
  (0x10080, "aLINEAR B IDEOGRAM B100 MANdB102 WOMANdB104 DEERdB105 EQUIDdB105F MAREdB105M STALLION
dB106F EWEdB106M RAMdB107F SHE-GOATdB107M HE-GOATdB108F SOWdB108M BOARdB109F COWdB109M BULL
dB120 WHEATdB121 BARLEYdB122 OLIVEdB123 SPICEdB125 CYPERUScMONOGRAM B127 KAPOdB128 KANAKO
cIDEOGRAM B130 OILdB131 WINEdB132cMONOGRAM B133 AREPAdB135 MERIcIDEOGRAM B140 BRONZEdB141 GOLDdB142
dB145 WOOLdB146dB150dB151rtdB152dB153dB154cMONOGRAM B156 TURO2cIDEOGRAM B157dB158dB159 CLOTHdB160
dB161dB162 GARMENTdB163 ARMOURdB164dB165dB166dB167dB168dB169dB170dB171dB172dB173 MONTHdB174
dB176 TREEdB177dB178dB179dB180dB181dB182dB183dB184dB185dB189dB190dB191 HELMETdB220 FOOTSTOOL
dB225 BATHTUBdB230 SPEARdB231mtdB232dB233 SWORDdB234dB236dB240 WHEELED CHARIOTdB241 CHARIOT
dB242 CHARIOT FRAMEdB243 WHEELdB245dB246cMONOGRAM B247 DIPTEcIDEOGRAM B248dB249dB251dB252dB253
dB254 DARTdB255dB256dB257dB258dB259dVESSEL B155eB200eB201eB202eB203eB204eB205eB206eB207eB208eB209
eB210eB211eB212eB213eB214eB215eB216eB217eB218eB219eB221eB222eB226eB227eB228eB229eB250eB305"),
  (0x10100, "aAEGEAN WORDwotddpjbCHECKtn"),
  (0x10107, "aAEGEANunuvczccylcqncqicxecwpcptcufcyeczbcyjcqlcqfcSIXTYcwqcpwcugcuvruczcrucylrucqnru
cqirucxerucwprucptrucufrucuvykczcykcylykcqnykcqiykcxeykcwpykcptykcufykcyeykczbykcyjykcqlykcqfyk
cSIXTYykcwqykcpwykcugyk"),
  (0x10137, "aAEGEAN WEIGHT BASE UNITcFIRST SUBUNITcSECOND SUBUNITcTHIRD SUBUNITcFOURTH SUBUNIT
bDRY MEASURE FIRST SUBUNITbLIQUID MEASURE FIRST SUBUNITbMEASURE SECOND SUBUNITcTHIRD SUBUNIT
aqyACROPHONIC ATTICuvvterdeDRACHMAdqidqfdqirueykdqfykdqiTALENTSdyeTALENTSdqfTALENTSduvruTALENTS
dqiruTALENTSduvykTALENTSdqiykTALENTSeSTATERSdyeSTATERSdqfSTATERSduvruSTATERSdqiruSTATERSduvykSTATERS
dyeykSTATERSdqfykSTATERSdyeMNAScHERAEUMuvPLETHRONcTHESPIANuvcHERMIONIANuvcEPIDAUREANzccTHESPIANzc
cCYRENAICzcDRACHMAScEPIDAUREANzcDRACHMAScTROEZENIANqidyeemiqkcHERMIONIANyecMESSENIANyecTHESPIANyedyj
cTROEZENIANqfemiqkcHERMIONIANqfcTHESPIANqfduvrudylrucEPIDAUREANqirucTROEZENIANqirucTHESPIANqiru
cCARYSTIANqirucNAXIANqirucTHESPIANuvykdqiykcDELPHICqiMNAScSTRATIANqfMNASbuvrdxaemiqkbzcTHIRDSxa
bylvuxabYEARxabTALENTxabDRACHMAxabOBOLxabzcOBOLSxabylOBOLSxabqnOBOLSxabqiOBOLSxabMETRETESxa
bKYATHOS BASExabLITRAxabOUNKIAxabXESTESxabARTABExabAROURAxabGRAMMAxabTRYBLION BASExabzzxabuvvtxa
bSINUSOIDxabINDICTIONxaaNOMISMAxa"),
  (0x10190, "aROMAN SEXTANSxabUNCIAxabSEMUNCIAxabSEXTULAxabDIMIDIA SEXTULAxabSILIQUAxabDENARIUSxa
bQUINARIUSxabSESTERTIUSxabDUPONDIUSxabASxabCENTURIALxaaASCIAxy"),
  (0x101A0, "aqyxyTAU RHO"),
  (0x101D0, "aPHAISTOS DISCxaPEDESTRIANdPLUMED HEADdTATTOOED HEADdCAPTIVEdCHILDdWOMANdHELMET
dGAUNTLETdTIARAdmtdBOWdSHIELDdCLUBdMANACLESdMATTOCKdSAWdLIDdBOOMERANGdCARPENTRY PLANEdDOLIUMdCOMB
dSLINGdCOLUMNdBEEHIVEdSHIPdrtdHIDEdBULLS LEGdCATdRAMdEAGLEdDOVEdTUNNYdBEEdPLANE TREEdVINEdPAPYRUS
dROSETTEdLILYdOX BACKdFLUTEdGRATERdSTRAINERdxgAXEdWAVY BANDdoduqxs"),
  (0x10280, "aLYCIANtaAcEcBcBHcGcDcIcWcZcTHcJcKcQcLcMcNcMMcNNcUcPcKKcRcScTcTTcANcENcHcX"),
  (0x102A0, "aCARIANtaAcP2cDcLcUUUcRcLDcA2cQcBcMcOcD2cTcSHcSH2cScC-18cUcNNcXcNcTT2cPcSScIcEcUUUUcK
cK2cNDcUUcGcG2cSTcST2cNGcIIcC-39cTTcUUU2cRRcMBcMB2cMB3cMB4cLD2cE2cUUU3"),
  (0x102E0, "aohEPACT THOUSANDStncpguvdzcdyldqndqidxedwpdptdufcunyedzbdyjdqldqfdSIXTYdwqdpwdugduvru
dzcrudylrudqnrudqirudxerudwprudptrudufru"),
  (0x10300, "ausITALICtaAdBEdKEdDEdEdVEdZEdHEdyhdIdKAdELdEMdENdESHdOdPEdSHEdKUdERdESdTEdUdEKSdPHE
dKHEdEFdERSdCHEdIIdUUdESScNUMERALuvdqidyedqf"),
  (0x1032D, "ausITALICtaYEdNORTHERN TSEdSOUTHERN TSEaGOTHICtaAHSAcBAIRKANcGIBAcDAGScAIHVUScQAIRTHRA
cIUJAcHAGLcTHIUTHcEIScKUSMAcLAGUScMANNAcNAUTHScJERcURUScPAIRTHRAcugcRAIDAcSAUILcTEIWScWINJAcFAIHU
cIGGWScHWAIRcOTHALcufru"),
  (0x10350, "ausPERMICtaANdBURdGAIdDOIdEdZHOIdDZHOIdZATAdDZITAdIdKOKEdLEIdMENOEdNENOEdVOOIdPEEIdREI
dSIIdTAIdUdCHERYdSHOOIdSHCHOOIdYRYdYERUdOdOOdEFdHAdTSIUdVERdYERdYERIdYATdIEdYUdYAdIAaodusPERMICtaAN
eDOIeZATAeNENOEeSII"),
  (0x10380, "aUGARITICtaALPAcBETAcGAMLAcsmcoycHOcWOcZETAcHOTAcTETcYODcKAFcwwcLAMDAcMEMcDHALcuocZU
cSAMKAcAINcPUcSADEcQOPAcRASHAcTHANNAcGHAINcTOcIcUcSSU"),
  (0x1039F, "aUGARITIC WORD DIVIDERausPERSIANxaAdIdUdKAdKUdGAdGUdXAdCAdJAdJIdTAdTUdDAdDIdDUdygdPAdBA
dFAdNAdNUdMAdMIdMUdYAdVAdVIdRAdRUdLAdSAdZAdwrdxodHA"),
  (0x103C8, "ausPERSIANxaAURAMAZDAAdAURAMAZDAA-2dAURAMAZDAAHAdXSHAAYATHIYAdDAHYAAUSHdDAHYAAUSH-2
dBAGAdBUUMISHcWORD DIVIDERcunuvdzcdyedzbdru"),
  (0x10400, "aDESERETnptatgIeEeAeAHeOeOOdwxIeEeAeAHeOeOOdAYdOWdWUdYEEdHdPEEdBEEdTEEdDEEdCHEEdJEEdKAY
dGAYdEFdVEEdETHdTHEEdESdZEEdESHdZHEEdERdELdEMdENdENGdOIdEWbxgtatgIeEeAeAHeOeOOdwxIeEeAeAHeOeOOdAYdOW
dWUdYEEdHdPEEdBEEdTEEdDEEdCHEEdJEEdKAYdGAYdEFdVEEdETHdTHEEdESdZEEdESHdZHEEdERdELdEMdENdENGdOIdEW
aSHAVIANtaPEEPcTOTcKICKcFEEcTHIGHcSOcSUREcCHURCHcYEAcHUNGcBIBcDEADcGAGcVOWcTHEYcZOOcMEASUREcJUDGE
cWOEcHA-HAcLOLLcMIMEcIFcEGGcmwcADOcONcWOOLcOUTcAHcROARcuocEATcAGEcICEcUPcOAKcOOZEcOILcAWEcAREcORcAIR
cERRcARRAYcEARcIANcYEWaOSMANYAtamecBAcTAcJAcXAcsmcDEELcRAcSAcSHIINcpacCAYNcGAcFAcQAAFcKAAFcLAANcMIIN
cNUUNczrcHAcYAcAcEcIcOcUcAAcEEcOO"),
  (0x104A0, "aOSMANYApgzzcuvczccylcqncqicxecwpcptcuf"),
  (0x104B0, "aOSAGEnptaAdAIdAINdAHdBRAdntdEHCHAdEdEINdHAdHYAdIdKAdEHKAdKYAdLAdMAdNAdOdOINdPAdEHPAdSA
dwrdTAdEHTAdTSAdEHTSAdTSHAdpadUdWAdsmdqtdZAdZHA"),
  (0x104D8, "aOSAGExgtaAdAIdAINdAHdBRAdntdEHCHAdEdEINdHAdHYAdIdKAdEHKAdKYAdLAdMAdNAdOdOINdPAdEHPAdSA
dwrdTAdEHTAdTSAdEHTSAdTSHAdpadUdWAdsmdqtdZAdZHA"),
  (0x10500, "aELBASANtaAcBEcCEcCHEcDEcNDEcDHEcEIcEcFEcGEcGJEcHEcIcJEcKEcLEcLLEcMEcNEcNAcNJEcOcPEcQE
cREcRREcSEcSHEcTEcyhcUcVEcXEcYcZEcZHEcGHEcGHAMMAcKHE"),
  (0x10530, "aCAUCASIAN ALBANIANtaALTdBETdGIMdDATdEBdZARLdEYNdZHILdTASdntdYOWDdZHAdIRBdwrdLANdINYA
dXEYNdDYANdCARdJHOXdKARdLYITdHEYTdQAYdAORdCHOYdCHIdCYAYdMAQdQARdNOWCdDZYAYdSHAKdJAYNdONdTYAYdFAM
dDZAYdCHATdPENdGHEYSdRATdSEYKdVEYZdTIWRdSHOYdIWNdCYAWdCAYNdYAYDdPIWRdKIW"),
  (0x1056F, "aCAUCASIAN ALBANIAN CITATIONtnaVITHKUQInptaAdBBEdBEdCEdCHEdDEdDHEdEIdEdFEdGA"),
  (0x1057C, "aVITHKUQInptaHAdHHAdIdIJEdJEdKAdLAdLLAdMEdNEdNJEdOdPEdQAdRE"),
  (0x1058C, "aVITHKUQInptaSEdSHEdTEdyhdUdVEdXE"),
  (0x10594, "aVITHKUQInptaYdZE"),
  (0x10597, "aVITHKUQIxgtaAdBBEdBEdCEdCHEdDEdDHEdEIdEdFEdGA"),
  (0x105A3, "aVITHKUQIxgtaHAdHHAdIdIJEdJEdKAdLAdLLAdMEdNEdNJEdOdPEdQAdRE"),
  (0x105B3, "aVITHKUQIxgtaSEdSHEdTEdyhdUdVEdXE"),
  (0x105BB, "aVITHKUQIxgtaYdZE"),
  (0x10600, "aLINEAR AxaAB001dAB002dAB003dAB004dAB005dAB006dAB007dAB008dAB009dAB010dAB011dAB013
dAB016dAB017dAB020dAB021dAB021FdAB021MdAB022dAB022FdAB022MdAB023dAB023MdAB024dAB026dAB027dAB028
dA028BdAB029dAB030dAB031dAB034dAB037dAB038dAB039dAB040dAB041dAB044dAB045dAB046dAB047dAB048dAB049
dAB050dAB051dAB053dAB054dAB055dAB056dAB057dAB058dAB059dAB060dAB061dAB065dAB066dAB067dAB069dAB070
dAB073dAB074dAB076dAB077dAB078dAB079dAB080dAB081dAB082dAB085dAB086dAB087dA100-102dAB118dAB120dA120B
dAB122dAB123dAB131AdAB131BdA131CdAB164dAB171dAB180dAB188dAB191dA301dA302dA303dA304dA305dA306dA307
dA308dA309AdA309BdA309CdA310dA311dA312dA313AdA313BdA313CdA314dA315dA316dA317dA318dA319dA320dA321
dA322dA323dA324dA325dA326dA327dA328dA329dA330dA331dA332dA333dA334dA335dA336dA337dA338dA339dA340dA341
dA342dA343dA344dA345dA346dA347dA348dA349dA350dA351dA352dA353dA354dA355dA356dA357dA358dA359dA360dA361
dA362dA363dA364dA365dA366dA367dA368dA369dA370dA371dA400-VASdA401-VASdA402-VASdA403-VASdA404-VAS
dA405-VASdA406-VASdA407-VASdA408-VASdA409-VASdA410-VASdA411-VASdA412-VASdA413-VASdA414-VASdA415-VAS
dA416-VASdA417-VASdA418-VASdA501dA502dA503dA504dA505dA506dA508dA509dA510dA511dA512dA513dA515dA516
dA520dA521dA523dA524dA525dA526dA527dA528dA529dA530dA531dA532dA534dA535dA536dA537dA538dA539dA540dA541
dA542dA545dA547dA548dA549dA550dA551dA552dA553dA554dA555dA556dA557dA559dA563dA564dA565dA566dA568dA569
dA570dA571dA572dA573dA574dA575dA576dA577dA578dA579dA580dA581dA582dA583dA584dA585dA586dA587dA588dA589
dA591dA592dA594dA595dA596dA598dA600dA601dA602dA603dA604dA606dA608dA609dA610dA611dA612dA613dA614dA615
dA616dA617dA618dA619dA620dA621dA622dA623dA624dA626dA627dA628dA629dA634dA637dA638dA640dA642dA643dA644
dA645dA646dA648dA649dA651dA652dA653dA654dA655dA656dA657dA658dA659dA660dA661dA662dA663dA664"),
  (0x10740, "aLINEAR AxaA701 AdA702 BdA703 DdA704 EdA705 FdA706 HdA707 JdA708 KdA709 LdA709-2 L2
dA709-3 L3dA709-4 L4dA709-6 L6dA710 WdA711 XdA712 YdA713utdA714 ABBdA715 BBdA717 DDdA726 EYYY
dA732 JE"),
  (0x10760, "aLINEAR AxaA800dA801dA802dA803dA804dA805dA806dA807"),
  (0x10780, "atutaxgnpAAcxvywocdrdywoccxgAEdnpBdBzvrr"),
  (0x10787, "atutaxgDZphfzvvyrrgCURLdDEZHphdDzvyafrrgmkyadwaEdobwauwEdFENGphdRAMSrtdnpGdGzvrr
dnpGzvrrdHzvxsdnpHdHENGzvrrdpkJzvxsmkrrdLSphdLZphdLzvBELTdnpLzvBELTdLzvvyrrmkBELTdLEZHezvvyrrdzaY
fzvBELTdOzvxsdnpOEdobutdQdzaRzvtgLEGimkvyrrdRzvyafFISHHOOKdnpRdTCphzvCURLdTSphfzvvyrrdTESHphdTzvvyrr
dVzvwbrr"),
  (0x107B2, "atutaxgnpYcquxqzvxscwaquxqzvxscBILABIAL CLICKcDENTAL CLICKcLATERAL CLICKcALVEOLAR CLICK
cvyCLICKzvvyrrcxgSzvCURL"),
  (0x10800, "aCYPRIOTxxAcEcIcOcUcJA"),
  (0x10808, "aCYPRIOTxxJO"),
  (0x1080A, "aCYPRIOTxxKAcKEcKIcKOcKUcLAcLEcLIcLOcLUcMAcMEcMIcMOcMUcNAcNEcNIcNOcNUcPAcPEcPIcPOcPUcRA
cREcRIcROcRUcSAcSEcSIcSOcSUcTAcTEcTIcTOcTUcWAcWEcWIcWO"),
  (0x10837, "aCYPRIOTxxXAcXE"),
  (0x1083C, "aCYPRIOTxxZA"),
  (0x1083F, "aCYPRIOTxxZOaIMPERIAL ARAMAICtaALEPHdBETHdGIMELdDALETHdHEdzrdZAYINdHETHdTETHdYODHdKAPH
dsrdMEMduodwidAYINdPEdSADHEdQOPHdRESHdwwdTAW"),
  (0x10857, "aIMPERIAL ARAMAICwlxacunuvdzcdyldyedzbduvrueykdyeykaPALMYRENEtaALEPHcBETHcGIMELcDALETH
cHEczrcZAYINcHETHcTETHcYODHcKAPHcsrcMEMcqguocuocwicAYINcPEcSADHEcQOPHcRESHcwwcTAWbsvFLEURON
bwcFLEURONbunuvczccylcqncqicyeczbaNABATAEANtaqgALEPHcALEPHcqgBETHcBETHcGIMELcDALETHcqgHEcHEczrcZAYIN
cHETHcTETHcqgYODHcYODHcqgKAPHcKAPHcqgsrcsrcqgMEMcMEMcqguocuocwicAYINcPEcSADHEcQOPHcRESHcqgwwcww
cTAW"),
  (0x108A7, "aNABATAEANunuvczccylcqnbCRUCIFORMunqnbunqicyeczbcuvru"),
  (0x108E0, "aHATRANtaALEPHcBETHcGIMELcDALETH-RESHcHEczrcZAYNcHETHcTETHcYODHcKAPHcsrcMEMcuocwicAYN
cPEcSADHEcQOPH"),
  (0x108F4, "aHATRANtawwcTAW"),
  (0x108FB, "aHATRANunuvcqicyeczbcuvruaPHOENICIANtaALFcBETcGAMLcDELTcHEcWAUcZAIcHETcTETcYODcKAFcLAMD
cMEMcuocSEMKcAINcPEcSADEcQOFcROSHcwwcTAUbunuvcyeczbcuvruczccyl"),
  (0x1091F, "aPHOENICIAN WORDwoaLYDIANtaAcBcGcDcEcVcIcYcKcLcMcNcOcRcSScTcUcFcQcScTTcANcENcLYcNNcC"),
  (0x1093F, "aLYDIANywtn"),
  (0x10980, "aMEROITIC HIEROGLYPHICtaAdEdIdOdYAdWAdBAdBA-2dPAdMAdNAdNA-2dNEdNE-2dRAdRA-2dLAdsmdHHA
dSAdSA-2dSEdKAdQAdTAdTA-2dTEdTE-2dTOdDAcxyVIDJdVIDJ-2bCURSIVEtaAdEdIdOdYAdWAdBAdPAdMAdNAdNEdRAdLAdsm
dHHAdSAdmrSAdSEdKAdQAdTAdTEdTOdDA"),
  (0x109BC, "aMEROITIC CURSIVEqoELEVEN TWELFTHSduvrdcLOGOGRAM RMTdIMNcunuvdzcdyldqndqidxedwpdptduf
dyedzbdyjdqldqfdSIXTYdwq"),
  (0x109D2, "aMEROITIC CURSIVEunuvrudzcrudylrudqnrudqirudxerudwprudptrudufruduvykdzcykdylykdqnyk
dqiykdxeykdwpykdptykdufykdyeykdzbykdyjykdqlykdqfykdSIXTYykdwqykdpwykdugykduvruykdzcruykdylruyk
dqnruykdqiruykdxeruykdwpruykdptruykdufruykcqouvTWELFTHdzcTWELFTHSdylTWELFTHSdqnTWELFTHSdqiTWELFTHS
dxeTWELFTHSdwpTWELFTHSdptTWELFTHSdufTWELFTHSdyeTWELFTHSaKHAROSHTHItaAbzqxaIdUdzpR"),
  (0x10A05, "aKHAROSHTHIzqxaEdO"),
  (0x10A0C, "aKHAROSHTHIzqsytnbxapnwenbcmnczobtaKAcsmcGAcqt"),
  (0x10A15, "aKHAROSHTHItaCAcntcJA"),
  (0x10A19, "aKHAROSHTHItaupcyycyzcovcowcuhcTAcygcDAcpacNAcPAcvicBAcnfcMAcYAcRAcLAcVAcwrcxocSAcZAcHA
cKKAcTTTHAcTTTAcVHA"),
  (0x10A38, "aKHAROSHTHIxamzmbcCAUDAcpjnb"),
  (0x10A3F, "aKHAROSHTHIznbpguvczccylcqnbunyeczbcuvrudykbqouvrd"),
  (0x10A50, "aKHAROSHTHIvqpjcxgnwcnwcCRESCENTmzcMANGALAMcLOTUScoscpnoscLINES"),
  (0x10A60, "ausxjARABIANtaHEesreHETHeMEMeQOPHezrewweRESHeBETHeTAWeSATeKAPHeuoeKHETHeSADHEewieFEeme
eAYNeDHADHEeGIMELeDALETHeGHAYNeTETHeZAYNeDHALETHeYODHeTHAWeTHETHdunuveqfdNUMERIC INDICATOR
bujARABIANtaHEHesqercetreQAFezreES-2eREHeBEHeTEHeES-1eKAFeuiesneSADeES-3eFEHemeeAINeDADeGEEMeDAL
eGHAINeTAHeZAINeTHALezweTHEHeZAHdunuveyeezb"),
  (0x10AC0, "aMANICHAEANtaALEPHcBETHcBHETHcGIMELcGHIMELcDALETHcHEczrbxaUDbtaZAYINcZHAYINcJAYIN
cJHAYINcHETHcTETHcYODHcKAPHcXAPHcKHAPHcsrcDHAMEDHcTHAMEDHcMEMcuocwicAYINcAAYINcPEcFEcSADHEcQOPHcXOPH
cQHOPHcRESHcwwcSSHINcTAWbmatnmbdnb"),
  (0x10AEB, "aMANICHAEANunuvcqicyeczbcuvrubvqxpcFLEURONcpnpjWITHINpjcpjWITHINpjcpjczcplctdFILLER"),
  (0x10B00, "aAVESTANtaAcAAcAOcAAOcANcAANcAEcAEEcEcEEcOcOOcIcIIcUcUUcKEcXEcXYEcXVEcGEcGGEcGHEcCEcJE
cTEcyhcDEcDHEcTTEcPEcFEcBEcBHEcNGEcNGYEcNGVEcNEcNYEcNNEcMEcHMEcYYEcYEcVEcREcLEcSEcZEcSHEcZHEcSHYE
cSSHEcHE"),
  (0x10B39, "aAVESTANmatnaTINYzcplvauvpjvqaxgzcplvauvpjvqasszcplvauvpjvqbuvpjvazcplvq
bzcRINGSvauvwevqbuvwevazcRINGSvqaINSCRIPTIONAL PARTHIANtaALEPHdBETHdGIMELdDALETHdHEdzrdZAYINdHETH
dTETHdYODHdKAPHdsrdMEMduodwidAYINdPEdSADHEdQOPHdRESHdwwdTAW"),
  (0x10B58, "aINSCRIPTIONAL PARTHIANunuvdzcdyldqndyedzbduvrueykbPAHLAVItaALEPHdBETHdGIMELdDALETHdHE
dWAW-AYIN-RESHdZAYINdHETHdTETHdYODHdKAPHdsrdMEM-QOPHduodwidPEdSADHEdwwdTAW"),
  (0x10B78, "aINSCRIPTIONAL PAHLAVIunuvdzcdyldqndyedzbduvrueykaPSALTER PAHLAVItaALEPHdBETHdGIMEL
dDALETHdHEdWAW-AYIN-RESHdZAYINdHETHdYODHdKAPHdsrdMEM-QOPHduodwidPEdSADHEdwwdTAW"),
  (0x10B99, "aPSALTER PAHLAVIwltnczawltncqnplzvojfpj"),
  (0x10BA9, "aPSALTER PAHLAVIunuvdzcdyldqndyedzbduvru"),
  (0x10C00, "ausTURKICtauyAdzxAeAEduyIdzxIeEduyOeOEdzxOEduyABdzxABduyAEBdzxAEBduyAGdzxAGduyAEGdzxAEG
duyADdzxADduyAEDeEZdzxEZduyAYdzxAYduyAEYdzxAEYduyAEKdzxAEKduyOEKdzxOEKduyALdzxALduyAELeELTeEMeANeAEN
dzxAENduyENTdzxENTduyENCdzxENCduyENYdzxENYeANGduyENGdzxAENGduyEPeOPeICeECdzxECduyAQdzxAQduyIQdzxIQ
duyOQdzxOQduyARdzxARduyAEReASeAESemwdzxmwduyESHdzxESHduyATdzxATduyAETdzxAETduyOTeBASH"),
  (0x10C80, "ausHUNGARIANnptaAeAAeEBeAMBeECeENCeECSeEDemkeEeCLOSE EeEEeEFeEGeEGYeEHeIeIIeEJeEKeAK
eUNKeELeELYeEMeENeENYeOeOOeNIKOLSBURG OEeRUDIMENTA OEeOEEeEPeEMPeERewxEReESeESZeETeENTeETYeECHeUeUU
eNIKOLSBURG UEeRUDIMENTA UEeEVeEZeEZSeENT-SHAPEDxaeUS"),
  (0x10CC0, "ausHUNGARIANxgtaAeAAeEBeAMBeECeENCeECSeEDemkeEeCLOSE EeEEeEFeEGeEGYeEHeIeIIeEJeEKeAK
eUNKeELeELYeEMeENeENYeOeOOeNIKOLSBURG OEeRUDIMENTA OEeOEEeEPeEMPeERewxEReESeESZeETeENTeETYeECHeUeUU
eNIKOLSBURG UEeRUDIMENTA UEeEVeEZeEZSeENT-SHAPEDxaeUS"),
  (0x10CFA, "ausHUNGARIANunuvdqidyedqfduvrueykaHANIFI ROHINGYAtaAdBAdPAdTAdyydJAdCAdHAdsmdFAdDAdov
dRAdRRAdZAdSAdwrdKAdGAdLAdMAdNAdWAdKINNA WAdYAdKINNA YAduedupdVAczqAdIdUdEdOctnSAKINdNA KHONNA
cxaHARBAHAYdTAHALAdTANAdTASSI"),
  (0x10D30, "aHANIFI ROHINGYApgzzduvdzcdyldqndqidxedwpdptduf"),
  (0x10E60, "aRUMIpguvczccylcqncqicxecwpcptcufbunyeczbcyjcqlcqfcSIXTYcwqcpwcugcuvruczcrucylrucqnru
cqirucxerucwprucptrucufrubqouvrddvtdTHIRDczcTHIRDS"),
  (0x10E80, "aYEZIDItaELIFcBEcPEcPHEcyhcSEcCIMcCHIMcCHHIMcHHAcXAcDALcZALcRAcRHAcZAcJAcSINcwwcSADcDAD
cTAcZEcEYNcXHEYNcFAcVAdmiqkcQAFcKAFcKHAFcGAFcsqcMIMcuocUMczrcOWcEWcHAYcYOTcET"),
  (0x10EAB, "aYEZIDIodretncMADDAtnbHYPHENATIONtn"),
  (0x10EB0, "aYEZIDItasqzvpjmbcYOTzvnzmb"),
  (0x10F00, "ausSOGDIANtaALEPHdqgALEPHdBETHdqgBETHdGIMELdHEdqgHEdzrdZAYINdHETHdYODHdKAPHdsrdMEMduo
dqguofzvzlyadwidAYINdmiAYINdPEdSADHEdqgSADHEfzvzlyadRESH-AYIN-DALETHdwwdTAWdqgTAWfzvzlyacunuvdzcdyl
dqndqidyedzbdyjduvrucqouvrdctbAYIN-DALETH"),
  (0x10F30, "aSOGDIANtaALEPHcBETHcGIMELcHEczrcZAYINcHETHcYODHcKAPHcsrcMEMcuocwicAYINcPEcSADHE
cRESH-AYINcwwcTAWcFETHcLESHbrwwwbodpjnbczcplnbcpjmbczcplmbcopmbdnbcrrmbdnbctgrrnbcRESHnbcxsnbbunuv
cyeczbcuvrubvqzczlBARSfzvplcnwzvpjczcnyzvplcrdnwzvpj"),
  (0x10F70, "ausUYGHURtaALEPHdBETHdGIMEL-HETHdzrdZAYINdqgHETHdYODHdKAPHdsrdMEMduodwidPEdSADHEdRESH
dwwdTAWdLESHcodpjmbenbdzcplmbfnbcvqmzdzcBARSepldqnpl"),
  (0x10FB0, "aCHORASMIANtaALEPHcxgALEPHcBETHcGIMELcDALETHcHEczrcCURLEDzrcZAYINcHETHcYODHcKAPHcsrcMEM
cuocwicAYINcPEcRESHcwwcTAWbunuvczccylcqncyeczbcuvru"),
  (0x10FE0, "aELYMAICtaALEPHcBETHcGIMELcDALETHcHEczrcZAYINcHETHcTETHcYODHcKAPHcsrcMEMcuocwicAYINcPE
cSADHEcQOPHcRESHcwwcTAWbtbZAYIN-YODH"),
  (0x11000, "aBRAHMIxanocmnczocJIHVAMULIYAcUPADHMANIYAbtaAcAAcIcIIcUcUUczpRdRRdLdLLcEcAIcOcAUcKAcsm
cGAcqtcuecCAcntcJAcsicupcyycyzcovcowcuhcTAcygcDAcpacNAcPAcvicBAcnfcMAcYAcRAcLAcVAcwrcxocSAcHAcLLA
cusybLLLAeRRAeNNNAbzqxaAAdBHATTIPROLU AAdIdIIdUdUUdzpReRReLeLLdEdAIdOdAUbznbosbpnosbvqpjcpnpjctd
cCRESCENTmzcLOTUS"),
  (0x11052, "aBRAHMIunuvczccylcqncqicxecwpcptcufcyeczbcyjcqlcqfcSIXTYcwqcpwcugcuvrudykbpgzzcuvczccyl
cqncqicxecwpcptcufbxausybznbtausybwxEfObzqxausybwxEgObtausybLLA"),
  (0x1107F, "aBRAHMIunJOINERaKAITHIxanocmnczobtaAcAAcIcIIcUcUUcEcAIcOcAUcKAcsmcGAcqtcuecCAcntcJAcsi
cupcyycyzcovcDDDHAcowcRHAcuhcTAcygcDAcpacNAcPAcvicBAcnfcMAcYAcRAcLAcVAcwrcxocSAcHAbzqxaAAdIdIIdUdUU
dEdAIdOdAUbxazncumbmaxabENUMERATIONxabunxabwltnbpnwltnbosbpnosbzqxazpR"),
  (0x110CD, "aKAITHIunxamb"),
  (0x110D0, "aSORA SOMPENGtaSAHdTAHdBAHdCAHdDAHdGAHdMAHdNGAHdLAHdNAHdVAHdPAHdYAHdRAHdrcdKAHdJAHdNYAH
dAHdEEHdIHdUHdOHdEHdMAE"),
  (0x110F0, "aSORA SOMPENGpgzzduvdzcdyldqndqidxedwpdptduf"),
  (0x11100, "aCHAKMAxanocmnczobtaAAcIcUcEcKAAcKHAAcGAAcGHAAcNGAAcCAAcCHAAcJAAcJHAAcNYAAcTTAAcTTHAA
cDDAAcDDHAAcNNAAcTAAcTHAAcDAAcDHAAcNAAcPAAcPHAAcBAAcBHAAcMAAcYYAAcYAAcRAAcLAAcWAAcSAAcHAAbzqxaAdIdII
dUdUUdEdAIdOdAUdOIbOtnbAUtnbznbMAAYYAA"),
  (0x11136, "aCHAKMApgzzcuvczccylcqncqicxecwpcptcufbwltnbosbpnosbvvtnbtaLHAAbzqxaAAdEIbtaVAA"),
  (0x11150, "aMAHAJANItaAcIcUcEcOcKAcsmcGAcqtcCAcntcJAcsicupcyycyzcovcowcuhcTAcygcDAcpacNAcPAcvicBA
cnfcMAcRAcLAcVAcSAcHAcRRAbxaumbmaxabwltnbtbSHRI"),
  (0x11180, "aSHARADAxanocmnczobtaAcAAcIcIIcUcUUczpRdRRdLdLLcEcAIcOcAUcKAcsmcGAcqtcuecCAcntcJAcsicup
cyycyzcovcowcuhcTAcygcDAcpacNAcPAcvicBAcnfcMAcYAcRAcLAcLLAcVAcwrcxocSAcHAbzqxaAAdIdIIdUdUUdzpReRReL
eLLdEdAIdOdAUbxazncmycJIHVAMULIYAcUPADHMANIYAbOMbosbpnosbmaxabwobSANDHItnbxaumbzqtutnbEXTRAwxzqtn
bSUTRAtnbzqxaPRISHTHAMATRA EbxasdnobpgzzcuvczccylcqncqicxecwpcptcufbEKAMbxaSIDDHAMbHEADSTROKE
bCONTINUATIONxabwlMARK-1cMARK-2"),
  (0x111E1, "axdmrpguvdzcdyldqndqidxedwpdptdufcunyedzbdyjdqldqfdSIXTYdwqdpwdugduvrueyk"),
  (0x11200, "aKHOJKItaAcAAcIcUcEcAIcOcAUcKAcsmcGAcGGAcqtcuecCAcntcJAcJJA"),
  (0x11213, "aKHOJKItaupcyycyzcovcowcuhcTAcygcDAcDDDAcpacNAcPAcvicBAcBBAcnfcMAcYAcRAcLAcVAcSAcHAcLLA
bzqxaAAdIdIIdUdEdAIdOdAUbxamnczncumcSHADDAbosbpnosbWORDwobwltnbpnwltnbmaxabxaSUKUN"),
  (0x11280, "aMULTANItaAcIcUcEcKAcsmcGA"),
  (0x11288, "aMULTANItaqt"),
  (0x1128A, "aMULTANItaCAcntcJAcJJA"),
  (0x1128F, "aMULTANItaupcyycyzcovcDDDAcowcuhcTAcygcDAcpacNAcPAcvicBA"),
  (0x1129F, "aMULTANItanfcMAcYAcRAcLAcVAcSAcHAcRRAcRHAbwltn"),
  (0x112B0, "aKHUDAWADItaAcAAcIcIIcUcUUcEcAIcOcAUcKAcsmcGAcGGAcqtcuecCAcntcJAcJJAcsicupcyycyzcov
cDDDAcRRAcowcuhcTAcygcDAcpacNAcPAcvicBAcBBAcnfcMAcYAcRAcLAcVAcwrcSAcHAbxamnbzqxaAAdIdIIdUdUUdEdAIdO
dAUbxaumczn"),
  (0x112F0, "aKHUDAWADIpgzzcuvczccylcqncqicxecwpcptcuf"),
  (0x11300, "aqvxaodmnmbcnocmnczo"),
  (0x11305, "aqvtaAcAAcIcIIcUcUUczpRdL"),
  (0x1130F, "aqvtaEEcAI"),
  (0x11313, "aqvtaOOcAUcKAcsmcGAcqtcuecCAcntcJAcsicupcyycyzcovcowcuhcTAcygcDAcpacNA"),
  (0x1132A, "aqvtaPAcvicBAcnfcMAcYAcRA"),
  (0x11332, "aqvtaLAcLLA"),
  (0x11335, "aqvtaVAcwrcxocSAcHA"),
  (0x1133B, "aodBINDUnbaqvxaumcmybzqxaAAdIdIIdUdUUdzpReRR"),
  (0x11347, "aqvzqxaEEdAI"),
  (0x1134B, "aqvzqxaOOdAUbxazn"),
  (0x11350, "aqvOM"),
  (0x11357, "aqvAUsytn"),
  (0x1135D, "aqvxaPLUTAbtaVEDICmndpnmnczpRRdLLbzqxazpLeLL"),
  (0x11366, "aodqvpgzzduvdzcdyldqndqidxe"),
  (0x11370, "aodqvtaAdKAdNAdVIdPA"),
  (0x11400, "aNEWAtaAcAAcIcIIcUcUUczpRdRRdLdLLcEcAIcOcAUcKAcsmcGAcqtcuecNGHAcCAcntcJAcsicupcNYHAcyy
cyzcovcowcuhcTAcygcDAcpacNAcNHAcPAcvicBAcnfcMAcMHAcYAcRAcRHAcLAcLHAcWAcwrcxocSAcHAbzqxaAAdIdIIdUdUU
dzpReRReLeLLdEdAIdOdAUbxazncnocmnczocumcmycqgmnbOMbSIDDHIbosbpnosboebGAP FILLERbmaxabpgzzcuvczccyl
cqncqicxecwpcptcufbpnoebPLACEHOLDERtn"),
  (0x1145D, "aNEWA INSERTIONxabSANDHItnbtaVEDICmnbxaJIHVAMULIYAcUPADHMANIYA"),
  (0x11480, "aTIRHUTA ANJIbtaAcAAcIcIIcUcUUczpRdRRdLdLLcEcAIcOcAUcKAcsmcGAcqtcuecCAcntcJAcsicupcyy
cyzcovcowcuhcTAcygcDAcpacNAcPAcvicBAcnfcMAcYAcRAcLAcVAcwrcxocSAcHAbzqxaAAdIdIIdUdUUdzpReRReLeLLdE
dwxEdAIdOdwxOdAUbxanocmnczoczncumcmybGVANGbmaxabOM"),
  (0x114D0, "aTIRHUTApgzzcuvczccylcqncqicxecwpcptcuf"),
  (0x11580, "aSIDDHAMtaAcAAcIcIIcUcUUczpRdRRdLdLLcEcAIcOcAUcKAcsmcGAcqtcuecCAcntcJAcsicupcyycyzcov
cowcuhcTAcygcDAcpacNAcPAcvicBAcnfcMAcYAcRAcLAcVAcwrcxocSAcHAbzqxaAAdIdIIdUdUUdzpReRR"),
  (0x115B8, "aSIDDHAMzqxaEdAIdOdAUbxanocmnczoczncumcSIDDHAMbosbpnosbwopjcmzbREPETITION MARK-1cMARK-2
cMARK-3bEND OF TEXTtnbwltnzvTRIDENTmkU-SHAPED ORNAMENTSgpmCRESCENTSeRAYSmkpmCRESCENTShpnCRESCENTS
hyxCRESCENTSdpnwefzvRAYSdzvpnCRESCENTSeyxCRESCENTSevsCRESCENTSeSEPTUPLE CRESCENTSenymkRAYS
gzcENCLOSURESgqnENCLOSURESbtaTHREE-CIRCLEmiIcTWO-CIRCLEmiIeIIcmiUbzqxamiUeUU"),
  (0x11600, "aMODItaAcAAcIcIIcUcUUczpRdRRdLdLLcEcAIcOcAUcKAcsmcGAcqtcuecCAcntcJAcsicupcyycyzcovcow
cuhcTAcygcDAcpacNAcPAcvicBAcnfcMAcYAcRAcLAcVAcwrcxocSAcHAcLLAbzqxaAAdIdIIdUdUUdzpReRReLeLLdEdAIdOdAU
bxamnczoczncARDHACANDRAbosbpnosbmaxabxaHUVA"),
  (0x11650, "aMODIpgzzcuvczccylcqncqicxecwpcptcuf"),
  (0x11660, "aMONGOLIAN BIRGAzvuzbwfBIRGAbpnBIRGAzvuzbyxBIRGAzvuzbBIRGAzvpnuzbwfBIRGAzvuzepnuz
bsdBIRGAdzvpnuzbSWIRL BIRGAdzvuzepnuzbzaSWIRL BIRGAzvpnuz"),
  (0x11680, "aTAKRItaAcAAcIcIIcUcUUcEcAIcOcAUcKAcsmcGAcqtcuecCAcntcJAcsicupcyycyzcovcowcuhcTAcygcDA
cpacNAcPAcvicBAcnfcMAcYAcRAcLAcVAcwrcSAcHAcRRAbxamnczobzqxaAAdIdIIdUdUUdEdAIdOdAUbxazncumbtamrsm
bmaxa"),
  (0x116C0, "aTAKRIpgzzcuvczccylcqncqicxecwpcptcuf"),
  (0x11700, "aAHOMtaKAcsmcuecNAcTAcmiTAcPAcvicBAcMAcJAcntcygcRAcLAcSAcupcHAcAcDAcpacGAcmiGAcqtcnfcsi
cmiBA"),
  (0x1171D, "aAHOMogxatpLAeRAeLIGATING RAbzqxaAdAAdIdIIdUdUUdEdAWdOdAIdAMbxaKILLER"),
  (0x11730, "aAHOMpgzzcuvczccylcqncqicxecwpcptcufbunyeczbbxaxgwlcwlcRULAIbxyVIbtaCAcyycyzcovcowcuh
cLLA"),
  (0x11800, "aDOGRAtaAcAAcIcIIcUcUUcEcAIcOcAUcKAcsmcGAcqtcuecCAcntcJAcsicupcyycyzcovcowcuhcTAcygcDA
cpacNAcPAcvicBAcnfcMAcYAcRAcLAcVAcwrcxocSAcHAcRRAbzqxaAAdIdIIdUdUUdzpReRRdEdAIdOdAUbxamnczoczncum
bmaxa"),
  (0x118A0, "aWARANG CITInptaNGAAeAeWIeYUeYAeYOeIIeUUeEeOeANGeGAeKOeENYeYUJeUCeENNeODDeTTEeNUNGeDA
eATeAMeBUePUeHIYOeHOLOeHORReHAReSSUUeSIIeVIYOcxgtaNGAAeAeWIeYUeYAeYOeIIeUUeEeOeANGeGAeKOeENYeYUJeUC
eENNeODDeTTEeNUNGeDAeATeAMeBUePUeHIYOeHOLOeHORReHAReSSUUeSIIeVIYOcpgzzduvdzcdyldqndqidxedwpdptduf
cunyedzbdyjdqldqfdSIXTYdwqdpwdug"),
  (0x118FF, "aWARANG CITI OMaDIVES AKURUtaAdAAdIdIIdUdUUdE"),
  (0x11909, "aDIVES AKURUtaO"),
  (0x1190C, "aDIVES AKURUtaKAdsmdGAdqtduedCAdntdJA"),
  (0x11915, "aDIVES AKURUtaupdyy"),
  (0x11918, "aDIVES AKURUtaovdowduhdTAdygdDAdpadNAdPAdvidBAdnfdMAdYAdYYAdRAdLAdVAdwrdxodSAdHAdLLAdZA
czqxaAAeIeIIeUeUUeE"),
  (0x11937, "aDIVES AKURUzqxaAIeO"),
  (0x1193B, "aDIVES AKURUxamndnodHALANTAczncPREFIXED NASALxactpYAcryRActpRAcxaumcpnoscGAP FILLER
cEND OF TEXTtn"),
  (0x11950, "aDIVES AKURUpgzzduvdzcdyldqndqidxedwpdptduf"),
  (0x119A0, "aNANDINAGARItaAcAAcIcIIcUcUUczpRdRR"),
  (0x119AA, "aNANDINAGARItaEcAIcOcAUcKAcsmcGAcqtcuecCAcntcJAcsicupcyycyzcovcowcuhcTAcygcDAcpacNAcPA
cvicBAcnfcMAcYAcRAcLAcVAcwrcxocSAcHAcLLAcRRAbzqxaAAdIdIIdUdUUdzpReRR"),
  (0x119DA, "aNANDINAGARIzqxaEdAIdOdAUbxamnczoczncmycSIDDHAMbHEADSTROKEbzqxaPRISHTHAMATRA E"),
  (0x11A00, "aZANABAZARxmtaAczqxaIeUEeUeEeOEeOeAIeAUewaIdsytnctaKAdsmdGAdqtduedCAdntdJAdupdyydyzdov
dowduhdTAdygdDAdpadNAdPAdvidBAdnfdMAdTSAdTSHAdDZAdDZHAdZHAdZAd-AdYAdRAdLAdVAdwrdxodSAdHAdKSSAcqgogtn
cxazndnoezvuzdnnzvuzdmndzocCLUSTER-INITIALtaRAcCLUSTER-FINALtaYAeRAeLAeVAcryHEADtncCLOSING HEADtn
ctnTSHEGdSHADdpnSHADdtgTSHEGcryDOUBLE-LINED HEADtncCLOSING DOUBLE-LINED HEADtncSUBJOINER"),
  (0x11A50, "aSOYOMBOtaAbzqxaIdUEdUdEdOdOEdAIdAUdzpReLcsytnbtaKAcsmcGAcqtcuecCAcntcJAcsicupcyycyzcov
cowcuhcTAcygcDAcpacNAcPAcvicBAcnfcMAcTSAcTSHAcDZAcZHAcZAc-AcYAcRAcLAcVAcwrcxocSAcHAcKSSA
bxaJIHVAMULIYAcUPADHMANIYAbCLUSTER-INITIALtaRAdLAdwrdSAbqgogxaGeKeNGeDeNeBeMeReLeSHeSe-Abxamnczo
bGEMINATIONtnbSUBJOINERbtnTSHEGcSHADcpnSHADcPLUTAbHEADtnzvtvmkSUNmkyxFLAMEiFLAMEgSUNbTERMINAL MARK-1
cMARK-2"),
  (0x11AB0, "aCANADIAN SYLLABICS NATTILIK HIdHIIdHOdHOOdHAdHAAdSHRIdSHRIIdSHROdSHROOdSHRAdSHRAAcSPE
cSPIcSPOcSPAaPAU CIN HAUtaPAeKAeLAeMAeDAeZAeVAeueeHAeGAesmeSAeBAeCAeTAeygeNAevieRAeFAenteAeEeIeOeU
eUAeIAeqgPfKfTfMfNfLfWfNGfYdRISINGyqtgeyqdSANDHIquxqdRISINGyqtgqgfqgdSANDHIquxqqgeyqtgeyqftgqgfqg
dMID-LEVELyqdquxqzkdMID-LEVELyqtgqgfqgdLOW-FALLINGyqtgeyqdquxqdLOW-FALLINGyqtgqgfqgdquxqqg"),
  (0x11C00, "aBHAIKSUKItaAcAAcIcIIcUcUUczpRdRRdL"),
  (0x11C0A, "aBHAIKSUKItaEcAIcOcAUcKAcsmcGAcqtcuecCAcntcJAcsicupcyycyzcovcowcuhcTAcygcDAcpacNAcPAcvi
cBAcnfcMAcYAcRAcLAcVAcwrcxocSAcHAbzqxaAAdIdIIdUdUUdzpReRReL"),
  (0x11C38, "aBHAIKSUKIzqxaEdAIdOdAUbxanocmnczoczncmybosbpnosbWORDwobGAP FILLER-1cFILLER-2"),
  (0x11C50, "aBHAIKSUKIpgzzcuvczccylcqncqicxecwpcptcufbunuvczccylcqncqicxecwpcptcufcyeczbcyjcqlcqf
cSIXTYcwqcpwcugbHUNDREDS UNITtn"),
  (0x11C70, "aMARCHEN HEADtnbtnSHADbtaKAcsmcGAcuecCAcntcJAcupcTAcygcDAcNAcPAcvicBAcMAcTSAcTSHAcDZA
cWAcZHAcZAc-AcYAcRAcLAcwrcSAcHAcA"),
  (0x11C92, "aMARCHEN SUBJOINEDtaKAdsmdGAduedCAdntdJAdupdTAdygdDAdNAdPAdvidBAdMAdTSAdTSHAdDZAdWAdZHA
dZA"),
  (0x11CA9, "aMARCHEN SUBJOINEDtaYAdRAdLAdwrdSAdHAdAbzqxaAAdIdUdEdObxamncno"),
  (0x11D00, "aMASARAM GONDItaAdAAdIdIIdUdUUdE"),
  (0x11D08, "aMASARAM GONDItaAIdO"),
  (0x11D0B, "aMASARAM GONDItaAUdKAdsmdGAdqtduedCAdntdJAdsidupdyydyzdovdowduhdTAdygdDAdpadNAdPAdvidBA
dnfdMAdYAdRAdLAdVAdwrdxodSAdHAdLLAdKSSAdJNYAdTRAczqxaAAeIeIIeUeUUezpR"),
  (0x11D3A, "aMASARAM GONDIzqxaE"),
  (0x11D3C, "aMASARAM GONDIzqxaAIeO"),
  (0x11D3F, "aMASARAM GONDIzqxaAUcxamndzodumdnndHALANTAczncREPHAcRA-KARA"),
  (0x11D50, "aMASARAM GONDIpgzzduvdzcdyldqndqidxedwpdptduf"),
  (0x11D60, "aGUNJALA GONDItaAdAAdIdIIdUdUU"),
  (0x11D67, "aGUNJALA GONDItaEEdAI"),
  (0x11D6A, "aGUNJALA GONDItaOOdAUdYAdVAdBAdnfdMAdKAdsmdTAdygdLAdGAdqtdDAdpadNAdCAdntdyydyzdLLAdJA
dsidovdowduedPAdvidHAdRAdSAczqxaAAeIeIIeUeUU"),
  (0x11D90, "aGUNJALA GONDIzqxaEEeAI"),
  (0x11D93, "aGUNJALA GONDIzqxaOOeAUcxamndzoczncOM"),
  (0x11DA0, "aGUNJALA GONDIpgzzduvdzcdyldqndqidxedwpdptduf"),
  (0x11EE0, "aMAKASARtaKAcGAcuecPAcBAcMAcTAcDAcNAcCAcJAcupcYAcRAcLAcVAcSAcAbANGKAbzqxaIdUdEdO
bPASSIMBANGbEND OFwl"),
  (0x11FB0, "aLISUtaYHA"),
  (0x11FC0, "aybqouvTHREE-HUNDRED-AND-TWENTIETHdONE-HUNDRED-AND-SIXTIETHdEIGHTIETHdSIXTY-FOURTH
dFORTIETHdTHIRTY-SECONDcylEIGHTIETHSdSIXTY-FOURTHScuvTWENTIETHdSIXTEENTH-1dSIXTEENTH-2dTENTHdpu
cylTWENTIETHSdSIXTEENTHScuvFIFTHdvtdHALF-1dHALF-2cylvucDOWNSCALING FACTOR KIIZHbxaNELcCEVITU
cAAZHAAKKUcUZHAKKUcMUUVUZHAKKUcKURUNIcPATHAKKUcMUKKURUNIcKAACUcPANAMcPONcVARAAKANcPAARAMcKUZHIcVELI
bWET CULTIVATIONxabDRY CULTIVATIONxabLANDxabSALT PANxabTRADITIONAL CREDITxacunxabCURRENTxabmkODDxa
bSPENTxabTOTALxabIN POSSESSIONxabSTARTINGqpxabxaMUTHALIYAcVAKAIYARAA"),
  (0x11FFF, "aybvqEND OF TEXTaCUNEIFORMxaAdypAeBADeGAN2yfeHAeIGIeLAGARraeMUSHeSAGcA2cABdypASH2
eDUN3raeGALeGAN2yfeHAeIGIraeIMINeLAGABeSHESHeUvjUvjUdracAB2dypBALAGeGAN2yfeMEvjENeSHA3eTAK4cADcAK
dypERIN2eSHITAvjGISHcALdypALeDIM2eGISHeHAeKAD3eKIeSHEeUSHcALANcALEPHcAMARdypSHEcANdvaANdylyp
dvjNAGA OPPOSING ANvjNAGAfxncANSHEcAPINcARADdypKURcARKABcASAL2cmwdZIDAyfdKABAyf
dvamwTUG2vaTUG2 TUG2vaTUG2 PAPfvamwhommwvamwvamwcASH2cASHGABcBAcBADcBAG3cBAHAR2cBALdvaBALcBALAGcmz
cBARA2cBIdypAeGAReIGIracBUdvaBU ABfUNdomBUcBULUGdvaBULUGcBURcBUR2cDAcDAGdKISIM5ypAvjMASHfAMARfBALAG
fBIfGAgvjMASHfGIfGIR2fGUDfHAfIRgvjLUfKAKfLAfLUgvjMASH2fLUMfNEfPAPvjPAPfSIfTAK4fU2vjGIR2fUSHcDAMcDAR
cDARA3cDARA4cDIcDIBcDIMdypSHEcDIM2cDINdKASKAL UrapicpicDUdvaDUdradSHESHIGcDUBdypESH2cDUB2cDUGcDUGUD
cDUHcDUNcDUN3draeracDUN4cDUR2cEdypPAPdvaEuovauocE2dypAvjHAvjDAeGAReMIeSALeSHEeUcEDINcEGIRcELcEN
dypGAN2fyfeMEdomENdOPPOSING ENdxncERENcERIN2cESH2cEZENdypAfvjLALhypLALeANeBADeDUN3ragraeHAfraeIGIra
eKASKALfxneKU3eLAeLALypLALeLIeLUeU2eUDcGAdracGA2dypAvjDAvjHAgHAgIGIeAB2yfvjTABeANemweASH2vjGALeBAD
emzvjRAeBURfvjRAeDAeDIeDIMypSHEeDUBeELfvjLAeENfypGAN2yfeGAN2yfeGAReGIeGI4fvjAeGIR2vjSUeHAvjLUvjESH2
eHALfvjLAeHIvjLIeHUB2eIGIraeISHvjHUvjmweKAKeKASKALeKIDfvjLALeKU3vjANeLAeMEvjENeMIeuofvauoePAeSALeSAR
eSHEfvjTUReSHIDeSUMeTAK4eUeUDfvjDUdvaGA2cGABAdomGABAcGADdvaGAD GARvaGARcGALdGADvaGAD GARvaGARcGALAM
cGAMcGANcGAN2dyfdvaGAN2domGAN2cGARcGAR3cGASHANcGESHTINdypKURcGIdypEeUdomGIcGI4dvaGI4domGI4cGIDIM
cGIR2dracGIR3dypAvjIGIeGAN2yfeIGIeLUvjIGIePAcGISALcGISHdomGISHdypBADeTAK4dyfcGUdomGUcGU2dypKAK
fypIGIraeuoeSALvjTUG2dracGUDdypAvjKUReKURdvaGUD LUGALcGULcGUMdypSHEcGURcGUR7cGURUNcGURUSHcHAdyfdra
cHALcHIdypmweASH2eBADepieGADeKINeuoeSHEeUcHUcHUB2dypANeHALeKASKALeLISHeUDcHUL2cIdAcIBcIDIM
dvaIDIM BURfxncIGcIGIdDIBdRIdvaIGI SHIRvaSHIR UDvaUDdracILdypGAN2yfcIL2cIMdypTAK4domIMdOPPOSING IM
dxncIMINcINcIRcISHcKAdypAeADfvjKU3eASH2eBADeBALAGemzeBIeERIN2eESH2eGAeGALeGAN2yfeGARfvjSHA3vjAeGI
eGIR2eGISHvjSARfomGISHeGUeGUR7eIGIeIMeKAKeKIeKIDeLIeLUeMEfvjDUgGIgTEeMIfvjNUNUZeNEeuoePIeRUeSAeSAR
ewreSHEeSHIDeSHUeSIGeSUHUReTAReUeU2eUDeUMUMypPAeUSHeZIcKA2domKA2cKABcKAD2cKAD3cKAD4cKAD5dvaKAD5cKAK
dypIGIracKALdypBADdomKALcKAM2cKAM4cKASKALdLAGABypUvaLAGABypUdvaKASKAL LAGABypUvaLAGABypUcKESH2cKI
dypBADeUeUDcKIDcKINcKISALcKISHcKISIM5dvaKISIM5cKUdvaHIypASH2 KUvaHIypASH2cKU3cKU4dzkqkcKU7cKULdra
cKUNcKURdOPPOSING KURcKUSHU2cKWU318cLAcLAGABdypAfvjDAvjHAgGARgLALeALeANemwZIDAyfeBADeBIeDAReENeGA
eGAReGUDfvjGUDeHAeHALeHIypuoeIGIraeIMfvjHAgLUeKIeKINeKU3eKULfvjHIvjAeLAGABeLISHeLUeLULeMEfvjENeMUSH
eNEeSHEvjSUMeSHITAvjGISHvjERIN2hyfeSHU2fvjSHU2eSUMeTAGeTAK4eTEvjAvjSUvjNAeUfvjAgUvjUeU2vjmweUDeUSH
dxncLAGARdypSHEfvjSUMdraevaLAGARraSHEcLAHSHUcLALdypLALcsqdypKURfvjRUcLIcLILcLIMMU2cLISHcLUdypBADcLU2
dypALeBADeESH2fyfeGAN2yfeHIypBADeIMeKAD2eKAD3fvjmweKIeLAvjmweLAGABeMEvjENeNEeNUeSIvjmweSIK2vjBUeTUG2
dyfdomLU2dOPPOSING LU2dxndSHESHIGcLU3cLUGALdvaLUGALdOPPOSING LUGALdSHESHIGcLUHcLULcLUMdvaLUM
fGARvaGARcMAdypTAK4dracMA2cMAHcMARcMASHcMASH2cMEcMEScMIcMINcMUdvaMUcMUGdracMUNSUBcMURGU2cMUSHdypA
eKUReZAdvaMUSHfypAvjNAdomMUSHcMUSH3dypAfvjDIeDIdracNAcNA2cNAGAdsddypSHUyfdOPPOSING NAGAcNAGAR
cNAM NUTILLUcNAMcNAM2cNEdypAeUDdSHESHIGcNIdypEcNI2cNIMdypGAN2yfeGARvjGAN2yfcNINDA2dypANemwfvjmweGUD
eMEvjGAN2yfeNEeuoeSHEfvjA ANgmwhvjmweU2vjmweUSHcNISAGcNUcNU11cuodLAGARypGARfMASHfSALgvauoLAGARypSAL
fUSHdyfdvauodomuofLAGARvaLAGARcNUNUZdAB2ypASHGABfBIfDUGfGUDfIGIrafKAD3fLAfNEfSILA3fU2dKISIM5ypBIgU
cPAcPADcPANcPAPcPESH2cPIdypAeABeBIeBUeEeIeIBeUeU2domPIcPIRIGdypKALeUDeZAdOPPOSING PIRIGcRAcRABcRIcRU
cSAcSAG NUTILLUcSAGdypAeDUeDUBeHAeKAKeKUReLUMeMIeuoeSALeSHIDeTABeU2eUBeUMeUReUSHdvaSAGdracSAL
dLAGABypASH2cSANGA2cSARcwrcSHA3dypAeBADeGISHeNEeSHU2eTUReUfvjAcSHA6cSHAB6cSHAR2cSHEdHU
dvaSHE GADvaGAD GARvaGARfTABvaTAB GARvaGARcSHEG9cSHENcSHESHcSHESH2cSHESHLAMcSHIDdypAeIMcSHIMdypAeBAL
eBULUGeDINeGAReIGIfraeKUSHU2eLULeMUGeSALcSHINIGcSHIRdyfdvaSHIR BURvaBURcSHITAcSHUdvasdSHUcSHU2
cSHUBURcSIdracSIGcSIG4dvaSIG4 SHU2cSIK2cSILA3cSUdvaSUcSUDcSUD2cSUHURcSUMcSUMASHcSURcSUR9cTAdmxdypHI
eMIdracTABdvaTAB NIvaNIpivapidxncTAGdypBIeGUDeSHEeSHUeTUG2eUDcTAK4cTARcTEdracTIdyfcTILcTIRdypTAK4
dvaTIRfGADvaGAD GARvaGARcTUcTUG2cTUKcTUMcTURdvaTUR ZAvaZAcUdGUDdU UdvaU PAvaPA GARvaGARfSURvaSUR
fUwavaUwacU2cUBcUDdKUSHU2dypBADeMIeUvjUvjUjradradSHESHIGeypBADcUDUGcUMdypLAGABeMEvjDAeSHA3eUcUMBIN
cUMUMdypKASKALePAcUNdracURdomURdSHESHIGcUR2dypAvjHAgNAeALeHAeuoeU2fvjmwgBIcUR4cURIcURI3cURUdypA
eASHGABemzeDUNeGAeGALeGAN2yfeGAReGUeHAeIGIeIMeISHeKIeLUMeMINePAeSHEeSIG4eTUeUvjGUDeUDeURUDAcURUDA
dypUcUSHdypAeKUeKUReTAK4cUSHXcUSH2cUSHUMXcUTUKIcUZ3dypKASKALcUZUcZAdyfdxnypKURcZAGcZAMXcZE2cZIdvaZI
cZI3cZIBdKABAyfcZIGcZIZ2cZUcZU5dypAcZUBURcZUMcKAP ELAMITEcABypuocAB2ypAcAMARypKUG
cDAG KISIM5ypU2vjMASHcDAG3cpivjSHUcDUBypSHEcEZENypGUDeSHEcGA2ypANvjKAKvjAeASH2cGE22cGIGcHUSH
cKAypANSHEeASH3eGISHeGUDeHIypASH2eLUMePAeSHULeTUeUR2cLAGABypGIcLU2 SHESHIGypBADdypESH2vjLALeSHUcMESH
cMUSH3ypZAcNA4cNINcNIN9cNINDA2ypBALeGIcNU11wfugoxcPESH2mxcPIR2cSAGypIGIracTI2cUMypMEcU U"),
  (0x12400, "aCUNEIFORM NUMERICxazcmwdylmwdqnmwdqimwdxemwdwpmwdptmwdufmwdylpidqnpidqipidxepidwppi
dptpidufpidqnUdqiUdxeUdwpUdptUdufUduvGESH2dzcGESH2dylGESH2dqnGESH2dqiGESH2dxeGESH2dwpGESH2dptGESH2
dufGESH2duvGESHUdzcGESHUdylGESHUdqnGESHUdqiGESHUdzcSHAR2dylSHAR2fzkqkdqnSHAR2dqiSHAR2dxeSHAR2
dwpSHAR2dptSHAR2dufSHAR2duvSHARUdzcSHARUdylSHARUfzkqkdqnSHARUdqiSHARUdSHAR2ypGALvjpihMINduvBURU
dzcBURUdylBURUfzkqkdqnBURUdqiBURUdylzkqkESH16gESH21dqnzkqkLIMMUgLIMMU4gLIMMU AhBdxezkqkASH9
dwpzkqkIMIN3gIMIN AhBdptzkqkUSSUgUSSU3dufzkqkILIMMUgILIMMU3gILIMMU4gILIMMU Adzcmwyfdylmwyfdqnmwyf
dqimwyfdxemwyfduvBAN2dzcBAN2dylBAN2dqnBAN2fzkqkdqiBAN2fzkqkdNIGIDAMINdNIGIDAESHduvESHE3dzcESHE3
duvTHIRDpidzcTHIRDSpidqiSIXTHSpiduvTHIRDzkqkAdzcTHIRDSzkqkAduvpumwevtmwdusASSYRIANuvSIXTHgvtduvvtGUR
erdGURdELAMITEuvTHIRDezcTHIRDSeqleqfdqnUzkqkdqiUzkqkdxeUzkqkdwpUzkqkdptUzkqkdufUzkqk"),
  (0x12470, "aCUNEIFORMvqxausASSYRIAN WORD DIVIDERdzlocdpcoceTRICOLONeQUADCOLON"),
  (0x12480, "aCUNEIFORMxaABypuoyfeSHU2cADypESH2cBADyppiyfcBAHAR2ypAB2eNIeZAcBUvaBUypNA2cDAypTAK4
cDAGypKURcDIMypIGIeU U UcDIM2ypUDcDUGypANSHEemwfATsueDINeDUNeERIN2eGAeGIeGIR2raeGISHeHAeHIeIGIra
eKASKALeKUReKUSHU2fvjKASKALeLAK-020esqfypKUReLUHvjGISHeMASHeMESeMIeNIePIeSHEeSIracE2ypKURePAP
cERIN2 XcESH2omESH2cEZEN SHESHIGypmwfHIfIGIrafLAfLALfMEfMESfSUdypSUcGA2ypBAHAR2eDIMraeDUGypIGIra
gKASKALeERENeGAeGARvjDIgNEeHAvjAeKUSHU2vjKASKALesqfypKUReLUHeMUSHeNEfvjE2gGIeSHIMeZIZ2cGABAwfugox
cGESHTINypUcGISHypGISHomGISHcGU2ypIGIracGUDvjGISHypTAK4cHAyfracHIypmwvaHIypmwcKAypBUeKAeU U UeUR
cLAGABypZUvaZUcLAK-003cLAK-021cLAK-025cLAK-030cLAK-050cLAK-051cLAK-062cLAK-079vaLAK-079racLAK-080
cLAK-081vaLAK-081cLAK-092cLAK-130cLAK-142cLAK-210cLAK-219cLAK-220cLAK-225cLAK-228cLAK-238cLAK-265
cLAK-266cLAK-343cLAK-347cLAK-348cLAK-383cLAK-384cLAK-390cLAK-441cLAK-449dypGUeIGIePAPvjLU3gPAPvjLU3
eU2vjBAcLAK-450cLAK-457cLAK-470cLAK-483cLAK-490cLAK-492cLAK-493cLAK-495cLAK-550cLAK-608cLAK-617dypmw
eBADeDUN3raraeKU3eLAeTAReTEeU2eUDeURUDAcLAK-636cLAK-648dypDUBeGAeIGIfraeNIePAPvjPAPvjLU3eSHESHvjKI
eUDeURUDAcLAK-724cLAK-749cLU2raypmwdyppieHALePAPfvjPAPvjLU3eTAK4cMIvjZA7cMUSHvaMUSHypGAgKAK
cNINDA2ypDIMraeGISHeGULeHIeKESH2eLAK-050eMASHePAPvjPAPeUfvjUeURUDAcSAGraypHAdypENeSHE ATsueTAK4
cSHA6yfcSHEvaSHEdvjHUB2eNAM2eSARcSHU2vjDUGypNIeE2ypANcSIypTAK4cTAK4vjSAGcTUMypGAN2yfeylpicUR2sddypUD
cURUypDARA3eLAK-668eLU3cZA7cZUvaZUvjSARcZU5ypylpiyf"),
  (0x12F90, "aCYPRO-MINOANxaCM001cCM002cCM004cCM005cCM006cCM007cCM008cCM009cCM010cCM011cCM012cCM012B
cCM013cCM015cCM017cCM019cCM021cCM023cCM024cCM025cCM026cCM027cCM028cCM029cCM030cCM033cCM034cCM035
cCM036cCM037cCM038cCM039cCM040cCM041cCM044cCM046cCM047cCM049cCM050cCM051cCM052cCM053cCM054cCM055
cCM056cCM058cCM059cCM060cCM061cCM062cCM063cCM064cCM066cCM067cCM068cCM069cCM070cCM071cCM072cCM073
cCM074cCM075cCM075BcCM076cCM078cCM079cCM080cCM081cCM082cCM083cCM084cCM085cCM086cCM087cCM088cCM089
cCM090cCM091cCM092cCM094cCM095cCM096cCM097cCM098cCM099cCM100cCM101cCM102cCM103cCM104cCM105cCM107
cCM108cCM109cCM110cCM112cCM114cCM301cCM302"),
  (0x13000, "aEGYPTIAN HIEROGLYPH A001cA002cA003cA004cA005cA005AcA006cA006AcA006BcA007cA008cA009
cA010cA011cA012cA013cA014cA014AcA015cA016cA017cA017AcA018cA019cA020cA021cA022cA023cA024cA025cA026
cA027cA028cA029cA030cA031cA032cA032AcA033cA034cA035cA036cA037cA038cA039cA040cA040AcA041cA042cA042A
cA043cA043AcA044cA045cA045AcA046cA047cA048cA049cA050cA051cA052cA053cA054cA055cA056cA057cA058cA059
cA060cA061cA062cA063cA064cA065cA066cA067cA068cA069cA070cB001cB002cB003cB004cB005cB005AcB006cB007
cB008cB009cC001cC002cC002AcC002BcC002CcC003cC004cC005cC006cC007cC008cC009cC010cC010AcC011cC012cC013
cC014cC015cC016cC017cC018cC019cC020cC021cC022cC023cC024cD001cD002cD003cD004cD005cD006cD007cD008
cD008AcD009cD010cD011cD012cD013cD014cD015cD016cD017cD018cD019cD020cD021cD022cD023cD024cD025cD026
cD027cD027AcD028cD029cD030cD031cD031AcD032cD033cD034cD034AcD035cD036cD037cD038cD039cD040cD041cD042
cD043cD044cD045cD046cD046AcD047cD048cD048AcD049cD050cD050AcD050BcD050CcD050DcD050EcD050FcD050GcD050H
cD050IcD051cD052cD052AcD053cD054cD054AcD055cD056cD057cD058cD059cD060cD061cD062cD063cD064cD065cD066
cD067cD067AcD067BcD067CcD067DcD067EcD067FcD067GcD067HcE001cE002cE003cE004cE005cE006cE007cE008cE008A
cE009cE009AcE010cE011cE012cE013cE014cE015cE016cE016AcE017cE017AcE018cE019cE020cE020AcE021cE022cE023
cE024cE025cE026cE027cE028cE028AcE029cE030cE031cE032cE033cE034cE034AcE036cE037cE038cF001cF001AcF002
cF003cF004cF005cF006cF007cF008cF009cF010cF011cF012cF013cF013AcF014cF015cF016cF017cF018cF019cF020
cF021cF021AcF022cF023cF024cF025cF026cF027cF028cF029cF030cF031cF031AcF032cF033cF034cF035cF036cF037
cF037AcF038cF038AcF039cF040cF041cF042cF043cF044cF045cF045AcF046cF046AcF047cF047AcF048cF049cF050cF051
cF051AcF051BcF051CcF052cF053cG001cG002cG003cG004cG005cG006cG006AcG007cG007AcG007BcG008cG009cG010
cG011cG011AcG012cG013cG014cG015cG016cG017cG018cG019cG020cG020AcG021cG022cG023cG024cG025cG026cG026A
cG027cG028cG029cG030cG031cG032cG033cG034cG035cG036cG036AcG037cG037AcG038cG039cG040cG041cG042cG043
cG043AcG044cG045cG045AcG046cG047cG048cG049cG050cG051cG052cG053cG054cH001cH002cH003cH004cH005cH006
cH006AcH007cH008cI001cI002cI003cI004cI005cI005AcI006cI007cI008cI009cI009AcI010cI010AcI011cI011AcI012
cI013cI014cI015cK001cK002cK003cK004cK005cK006cK007cK008cL001cL002cL002AcL003cL004cL005cL006cL006A
cL007cL008cM001cM001AcM001BcM002cM003cM003AcM004cM005cM006cM007cM008cM009cM010cM010AcM011cM012cM012A
cM012BcM012CcM012DcM012EcM012FcM012GcM012HcM013cM014cM015cM015AcM016cM016AcM017cM017AcM018cM019cM020
cM021cM022cM022AcM023cM024cM024AcM025cM026cM027cM028cM028AcM029cM030cM031cM031AcM032cM033cM033A
cM033BcM034cM035cM036cM037cM038cM039cM040cM040AcM041cM042cM043cM044cN001cN002cN003cN004cN005cN006
cN007cN008cN009cN010cN011cN012cN013cN014cN015cN016cN017cN018cN018AcN018BcN019cN020cN021cN022cN023
cN024cN025cN025AcN026cN027cN028cN029cN030cN031cN032cN033cN033AcN034cN034AcN035cN035AcN036cN037cN037A
cN038cN039cN040cN041cN042cNL001cNL002cNL003cNL004cNL005cNL005AcNL006cNL007cNL008cNL009cNL010cNL011
cNL012cNL013cNL014cNL015cNL016cNL017cNL017AcNL018cNL019cNL020cNU001cNU002cNU003cNU004cNU005cNU006
cNU007cNU008cNU009cNU010cNU010AcNU011cNU011AcNU012cNU013cNU014cNU015cNU016cNU017cNU018cNU018AcNU019
cNU020cNU021cNU022cNU022AcO001cO001AcO002cO003cO004cO005cO005AcO006cO006AcO006BcO006CcO006DcO006E
cO006FcO007cO008cO009cO010cO010AcO010BcO010CcO011cO012cO013cO014cO015cO016cO017cO018cO019cO019AcO020
cO020AcO021cO022cO023cO024cO024AcO025cO025AcO026cO027cO028cO029cO029AcO030cO030AcO031cO032cO033
cO033AcO034cO035cO036cO036AcO036BcO036CcO036DcO037cO038cO039cO040cO041cO042cO043cO044cO045cO046cO047
cO048cO049cO050cO050AcO050BcO051cP001cP001AcP002cP003cP003AcP004cP005cP006cP007cP008cP009cP010cP011
cQ001cQ002cQ003cQ004cQ005cQ006cQ007cR001cR002cR002AcR003cR003AcR003BcR004cR005cR006cR007cR008cR009
cR010cR010AcR011cR012cR013cR014cR015cR016cR016AcR017cR018cR019cR020cR021cR022cR023cR024cR025cR026
cR027cR028cR029cS001cS002cS002AcS003cS004cS005cS006cS006AcS007cS008cS009cS010cS011cS012cS013cS014
cS014AcS014BcS015cS016cS017cS017AcS018cS019cS020cS021cS022cS023cS024cS025cS026cS026AcS026BcS027cS028
cS029cS030cS031cS032cS033cS034cS035cS035AcS036cS037cS038cS039cS040cS041cS042cS043cS044cS045cS046
cT001cT002cT003cT003AcT004cT005cT006cT007cT007AcT008cT008AcT009cT009AcT010cT011cT011AcT012cT013cT014
cT015cT016cT016AcT017cT018cT019cT020cT021cT022cT023cT024cT025cT026cT027cT028cT029cT030cT031cT032
cT032AcT033cT033AcT034cT035cT036cU001cU002cU003cU004cU005cU006cU006AcU006BcU007cU008cU009cU010cU011
cU012cU013cU014cU015cU016cU017cU018cU019cU020cU021cU022cU023cU023AcU024cU025cU026cU027cU028cU029
cU029AcU030cU031cU032cU032AcU033cU034cU035cU036cU037cU038cU039cU040cU041cU042cV001cV001AcV001BcV001C
cV001DcV001EcV001FcV001GcV001HcV001IcV002cV002AcV003cV004cV005cV006cV007cV007AcV007BcV008cV009cV010
cV011cV011AcV011BcV011CcV012cV012AcV012BcV013cV014cV015cV016cV017cV018cV019cV020cV020AcV020BcV020C
cV020DcV020EcV020FcV020GcV020HcV020IcV020JcV020KcV020LcV021cV022cV023cV023AcV024cV025cV026cV027cV028
cV028AcV029cV029AcV030cV030AcV031cV031AcV032cV033cV033AcV034cV035cV036cV037cV037AcV038cV039cV040
cV040AcW001cW002cW003cW003AcW004cW005cW006cW007cW008cW009cW009AcW010cW010AcW011cW012cW013cW014cW014A
cW015cW016cW017cW017AcW018cW018AcW019cW020cW021cW022cW023cW024cW024AcW025cX001cX002cX003cX004cX004A
cX004BcX005cX006cX006AcX007cX008cX008AcY001cY001AcY002cY003cY004cY005cY006cY007cY008cZ001cZ002cZ002A
cZ002BcZ002CcZ002DcZ003cZ003AcZ003BcZ004cZ004AcZ005cZ005AcZ006cZ007cZ008cZ009cZ010cZ011cZ012cZ013
cZ014cZ015cZ015AcZ015BcZ015CcZ015DcZ015EcZ015FcZ015GcZ015HcZ015IcZ016cZ016AcZ016BcZ016CcZ016DcZ016E
cZ016FcZ016GcZ016HcAA001cAA002cAA003cAA004cAA005cAA006cAA007cAA007AcAA007BcAA008cAA009cAA010cAA011
cAA012cAA013cAA014cAA015cAA016cAA017cAA018cAA019cAA020cAA021cAA022cAA023cAA024cAA025cAA026cAA027
cAA028cAA029cAA030cAA031cAA032"),
  (0x13430, "aEGYPTIAN HIEROGLYPHzlJOINERcrsJOINERcINSERT ATysSTARTenjSTARTeysENDenjENDcvcts
cBEGIN SEGMENTcEND SEGMENT"),
  (0x14400, "aANATOLIAN HIEROGLYPH A001cA002cA003cA004cA005cA006cA007cA008cA009cA010cA010AcA011cA012
cA013cA014cA015cA016cA017cA018cA019cA020cA021cA022cA023cA024cA025cA026cA026AcA027cA028cA029cA030
cA031cA032cA033cA034cA035cA036cA037cA038cA039cA039AcA040cA041cA041AcA042cA043cA044cA045cA045AcA046
cA046AcA046BcA047cA048cA049cA050cA051cA052cA053cA054cA055cA056cA057cA058cA059cA060cA061cA062cA063
cA064cA065cA066cA066AcA066BcA066CcA067cA068cA069cA070cA071cA072cA073cA074cA075cA076cA077cA078cA079
cA080cA081cA082cA083cA084cA085cA086cA087cA088cA089cA090cA091cA092cA093cA094cA095cA096cA097cA097A
cA098cA098AcA099cA100cA100AcA101cA101AcA102cA102AcA103cA104cA104AcA104BcA104CcA105cA105AcA105BcA106
cA107cA107AcA107BcA107CcA108cA109cA110cA110AcA110BcA111cA112cA113cA114cA115cA115AcA116cA117cA118
cA119cA120cA121cA122cA123cA124cA125cA125AcA126cA127cA128cA129cA130cA131cA132cA133cA134cA135cA135A
cA136cA137cA138cA139cA140cA141cA142cA143cA144cA145cA146cA147cA148cA149cA150cA151cA152cA153cA154cA155
cA156cA157cA158cA159cA160cA161cA162cA163cA164cA165cA166cA167cA168cA169cA170cA171cA172cA173cA174cA175
cA176cA177cA178cA179cA180cA181cA182cA183cA184cA185cA186cA187cA188cA189cA190cA191cA192cA193cA194cA195
cA196cA197cA198cA199cA200cA201cA202cA202AcA202BcA203cA204cA205cA206cA207cA207AcA208cA209cA209AcA210
cA211cA212cA213cA214cA215cA215AcA216cA216AcA217cA218cA219cA220cA221cA222cA223cA224cA225cA226cA227
cA227AcA228cA229cA230cA231cA232cA233cA234cA235cA236cA237cA238cA239cA240cA241cA242cA243cA244cA245
cA246cA247cA248cA249cA250cA251cA252cA253cA254cA255cA256cA257cA258cA259cA260cA261cA262cA263cA264cA265
cA266cA267cA267AcA268cA269cA270cA271cA272cA273cA274cA275cA276cA277cA278cA279cA280cA281cA282cA283
cA284cA285cA286cA287cA288cA289cA289AcA290cA291cA292cA293cA294cA294AcA295cA296cA297cA298cA299cA299A
cA300cA301cA302cA303cA304cA305cA306cA307cA308cA309cA309AcA310cA311cA312cA313cA314cA315cA316cA317
cA318cA319cA320cA321cA322cA323cA324cA325cA326cA327cA328cA329cA329AcA330cA331cA332AcA332BcA332CcA333
cA334cA335cA336cA336AcA336BcA336CcA337cA338cA339cA340cA341cA342cA343cA344cA345cA346cA347cA348cA349
cA350cA351cA352cA353cA354cA355cA356cA357cA358cA359cA359AcA360cA361cA362cA363cA364cA364AcA365cA366
cA367cA368cA368AcA369cA370cA371cA371AcA372cA373cA374cA375cA376cA377cA378cA379cA380cA381cA381AcA382
cA383 RA OR RIcA383AcA384cA385cA386cA386AcA387cA388cA389cA390cA391cA392cA393ptcA394cA395cA396cA397
cA398cA399cA400cA401cA402cA403cA404cA405cA406cA407cA408cA409cA410 BEGIN LOGOGRAMtn
cA410A END LOGOGRAMtncA411cA412cA413cA414cA415cA416cA417cA418cA419cA420cA421cA422cA423cA424cA425
cA426cA427cA428cA429cA430cA431cA432cA433cA434cA435cA436cA437cA438cA439cA440cA441cA442cA443cA444cA445
cA446cA447cA448cA449cA450cA450AcA451cA452cA453cA454cA455cA456cA457cA457AcA458cA459cA460cA461cA462
cA463cA464cA465cA466cA467cA468cA469cA470cA471cA472cA473cA474cA475cA476cA477cA478cA479cA480cA481cA482
cA483cA484cA485cA486cA487cA488cA489cA490cA491cA492cA493cA494cA495cA496cA497cA501cA502cA503cA504cA505
cA506cA507cA508cA509cA510cA511cA512cA513cA514cA515cA516cA517cA518cA519cA520cA521cA522cA523cA524cA525
cA526cA527cA528cA529cA530"),
  (0x16800, "aBAMUMtaPHASE-A NGKUE MFONdGBIEE FONdPON MFON PIPAEMGBIEEfPIPAEMBAdNAA MFONdSHUENSHUET
dTITA MFONdNZA MFONdSHINDA PA NJIdPON PA NJI PIPAEMGBIEEgPIPAEMBAdMAEMBGBIEEdTU MAEMBAdNGANGU
dMAEMVEUXdMANSUAEdMVEUAENGAMdSEUNYAMdNTOQPENdKEUKEUTNDAdNKINDIdSUUdNGKUENZEUMdLAPAQdLET KUT
dNTAP MFAAdMAEKEUPdPASHAEdGHEUAERAEdPAMSHAEdMON NGGEUAETdNZUN MEUTdU YUQ NAEdGHEUAEGHEUAEdNTAP NTAA
dSISAdMGBASAdMEUNJOMNDEUQdMOOMPUQdKAFAdPA LEERAEWAdNDA LEERAEWAdPETdMAEMKPENdNIKAdPUPdTUAEPdLUAEP
dSONJAMdTEUTEUWENdMAENYIdKETdNDAANGGEUAETdKUOQdMOOMEUTdSHUMdLOMMAEdFIRIdROMdKPOQdSOQdMAP PIEET
dSHIRAEdNTAPdSHOQ NSHUT YUMdNYIT MONGKEUAEQdPAARAEdNKAARAEdUNKNOWNdNGGENdMAESIdNJAMdMBANYIdNYET
dTEUAENdSOTdPAAMdNSHIEEdMAEMdNYIdKAQdNSHAdVEEdLUdNENdNAQdMBAQcPHASE-B NSHUETdTU MAEMGBIEEdSIEE
dSET TUdLOM NTEUMdMBA MAELEEdKIEEMdYEURAEdMBAARAEdKAMdPEESHIdYAFU LEERAEWAdsqNSHUT NYAMdNTIEE SHEUOQ
dNDU NJAAdGHEUGHEUAEMdPITdTU NSIEEdSHET NJAQdSHEUAEQTUdMFON TEUAEQdMBIT MBAAKETdNYI NTEUMdKEUPUQ
dGHEUGHENdKEUYEUXdLAANAEdPARUMdVEUMdNGKINDI MVOPdNGGEU MBUdWUAETdSAKEUAEdTAAMdMEUQdNGGUOQessdMFIYAQ
dSUEdMBEURIdMONTIEENdNYAEMAEdPUNGAAMdMEUT NGGEETdFEUXdMBUOQdFEEdKEUAEMdMA NJEUAENAeNJUQAdLETdNGGAAM
dNSENdMAdKIQdNGOMcPHASE-C NGKUE MAEMBAdNZAdYUMdWANGKUOQdNGGENdNDEUAEREEdNGKAQdGHARAEdMBEEKEETdGBAYI
dNYIR MKPARAQ MEUNdNTU MBITdMBEUMdPIRIEENdNDOMBUdMBAA CABBAGE-TREEdKEUSHEUAEPdGHAPdKEUKAQdYU MUOMAE
dNZEUMdMBUEdNSEUAENdMBITdYEUQdKPARAQdKAAdSEUXdNDIDAdTAASHAEdNJUEQdTITA YUEdSUAETdNGGUAEN NYAMdVEUX
dNANSANAQdMA KEUAERIdNTAAdNGGUONdLAPdMBIRIEENdMGBASAQdNTEUNGBAdTEUTEUXdNGGUMdFUEdNDEUTdNSAdNSHAQ
dBUNGdVEUAEPENdMBERAEdRUdNJAEMdsqdTITUAEPdNSUOT NGOMdNJEEEEdKETdNGGUdMAESIdMBUAEMdLUdKUTdNJAMdNGOM
dWUPdNGGUEETdNSOMdNTENdKUOP NKAARAEdNSUNdNDAMdMA NSIEEdYAAdNDAPdSHUEQdSETFONdMBIdMAEMBAdMBANYI
dKEUSEUXdMBEUXdKEUMdMBAA PICKETdYUWOQdNJEUXdMIEEdMUAEdSHIQdKEN LAWeFATIGUEdNGAQdNAQdLIQdPINdPENdTET
cPHASE-D MBUOdWAPdNJIdMFONdNJIEEdLIEEdNJEUTdNSHEEdNGGAAMAEdNYAMdWUAENdNGKUNdSHEEdNGKAPdKEUAETMEUN
dTEUTdSHEUAEdNJAPdSUEdKETdYAEMMAEdKUOMdSAPdMFEUTdNDEUXdMALEERIdMEUTdSEUAEQdYENdNJEUAEMdKEUOT MBUAE
dNGKEURIdTUdGHAAdNGKYEEdFEUFEUAETdNDEEdMGBOFUMdLEUAEPdNDONdMONIdMGBEUNdPUUTdMGBIEEdMFOdLUMdNSIEEP
dMBAAdKWAETdNYETdTEUAENdSOTdYUWOQdKEUMdRAEMdTEEEEdNGKEUAEQdMFEUAEdNSIEETdKEUPdPIPdPEUTAEdNYUEdLET
dNGGAAMdMFIEEdNGGWAENdYUOMdPAPdYUOPdNDAMdNTEUMdSUAEdKUNdNGGEUXdNGKIEEdTUOTdMEUNdKUQdNSUMdTEUN
dMAENJETdNGGAPdLEUMdNGGUOMdNSHUTdNJUEQdGHEUAEdKUdRENusdTAEdTOQdNYIdRIIdLEEEEdMEEEEdMdSUUdMUdSHII
dSHEUXdKYEEdNUdSHUdNTEEdPEEdNIdSHOQdPUQdMVOPdLOQdREN MUCHdTIdNTUUdMBAAwpdSAQdFAAcPHASE-E NDAPdTOON
dMBEUMdLAPdVOMdLOONdPAAdSOMdRAQdNSHUOPdNDUNdPUAEdTAMdNGKAdKPEUXdWUOdSEEdNGGEUAETdPAAMdTOOdKUOPdLOM
dNSHIEEdNGOPdMAEMdNGKEUXdNGOQdNSHUEdRIMGBAdNJEUXdPEEMdSAAdNGGURAEdMGBAdGHEUXdNGKEUAEMdNJAEMLIdMAP
dLOOTdNGGEEEEdNDIQdTAEN NTEUMdSETdPUMdNDAA SOFTNESSdNGGUAESHAE NYAMdYIEEdGHEUNdTUAEdYEUAEdPOdTUMAE
dKEUAEdSUAENdTEUAEQdVEUAEdWEUXdLAAMdPUdTAAQdGHAAMAEdNGEUREUTdSHEUAEQdMGBENdMBEEdNZAQdNKOMdGBETdTUM
dKUETdYAPdNYI CLEAVERdYITdMFEUQdNDIAQdPIEEQdYUEQdLEUAEMdFUEdGBEUXdNGKUPdKETdMAEdNGKAAMIdGHETdFAdNTUM
dPEUTdYEUMdNGGEUAEdNYInedNZUQdPOONdMIEEdFUETdNAEdMUAEdGHEUAEdFU IdMVIdPUAQdNGKUMdKUTdPIETdNTAP
dYEUAETdNGGUPdPA PEOPLEdFU CALLdFOMdNJEEdAdTOQdOdIdLAQdPA PLURALdTAAdTAQdNDAA MY HOUSEdSHIQdYEUX
dNGUAEdYUAENdYOQ SWIMMINGeCOVERdYUQdYUNdKEUXdPEUXdNJEE EPOCHdPUEdWUEdFEEdVEEdLUdMIdREUXdRAEdNGUAET
duedSHOdSHOQdFU REMEDYdNAdPIdLOQdKOdMENdMAdMAQdTEUdKIdMONdyedFAQdGHOMcPHASE-F KAdUdKUdEEdREEdTAEdNYI
dLAdRIIdRIEEdMEEEEdTAAdNDAAdNJAEMdMdSUUdSHIIdSIdSEUXdKYEEdKETdNUAEdNUdNJUAEdYOQdSHUdYAdNSHAdPEUX
dNTEEdWUEdPEEdRUdNIdREUXdKENdNGKWAENdNGGAdSHOdPUAEdFOMdWAdLIdLOQdKOdMBENdRENdMAdMOdMBAAdTETdKPA
dSAMBAdVUEQ"),
  (0x16A40, "aMROtaTAcNGIcYOcMIMcBAcDAcAcPHIcKHAIcHAOcDAIcCHUcKEAAEcOLcMAEMcNINcPAcOOcOcROcSHIcTHEA
cEAcWAcEcKOcLANcLAcHAIcRIcTEK"),
  (0x16A60, "aMROpgzzcuvczccylcqncqicxecwpcptcuf"),
  (0x16A6E, "aMROosbpnosaTANGSAtaOZcOCcOQcOXcAZcACcAQcAXcVZcVCcVQcVXcEZcECcEQcEXcIZcICcIQcIXcUZcUC
cUQcUXcAWZcAWCcAWQcAWXcUIZcUICcUIQcUIXcqgNGctgUEXcwxUEZdAWXcUECcUEZcUEQcUEXcUIUZcUIUCcUIUQcUIUXcMZ
cMCcMQcMXcKAcsmcGAcuecSAcYAcWAcPAcupcvicBAcMAcNAcHAcLAcHTAcTAcDAcRAcNHAcwrcCAcTSAcqtcHTTAcygcXAcFA
cpacntcZA"),
  (0x16AC0, "aTANGSApgzzcuvczccylcqncqicxecwpcptcuf"),
  (0x16AD0, "aBASSA VAHtaENNIdKAdSEdFAdMBEdYIEdGAHdDHIIdKPAHdJOdHWAHdWAdZOdGBUdDOdCEdUWUdTOdBAdVU
dYEINdPAdWADDAdAdOdOOdUdEEdEdI"),
  (0x16AF0, "aBASSA VAHodroyqdthyqdMIDyqdLOW-MIDyqdHIGH-LOWyqcqqxq"),
  (0x16B00, "aPAHAWH HMONGzqKEEBdKEEVdKIBdKIVdKAUBdKAUVdKUBdKUVdKEBdKEVdKAIBdKAIVdKOOBdKOOVdKAWB
dKAWVdKUABdKUAVdKOBdKOVdKIABdKIAVdKABdKAVdKWBdKWVdKAABdKAAVcogVAUdNTSAUdLAUdHAUdNLAUdRAUdNKAUdQHAU
dYAUdHLAUdMAUdCHAUdNCHAUdHNAUdPLHAUdNTHAUdNAUdAUdXAUdCAUctnCIM TUBeSOeKESeKHAVeSUAMeHOMeTAUM
cxaVOS THOMeTSHAB CEEBdCIM CHEEMdVOS THIABeFEEMdXYEEM NTXIVeRHOeTOVeFAIBdVOS SEEVdMEEJ SUABdVOS NRUA
dIB YAMdXAUSdCIM TSOV ROG"),
  (0x16B50, "aPAHAWH HMONGpgzzduvdzcdyldqndqidxedwpdptduf"),
  (0x16B5B, "aPAHAWH HMONGunTENSdHUNDREDSdyeTHOUSANDSdMILLIONSdruMILLIONSdyeBILLIONSdTRILLIONS"),
  (0x16B63, "aPAHAWH HMONGxaVOS LUBdXYOOdHLIdTHIRD-STAGE HLIdZWJ THAJdHNUBdNQIGdXIABdNTUJdAV
dTXHEEJ CEEVdMEEJ TSEEBdTAUdLOSdMUSdCIM HAIS LUS NTOG NTOGeCUAM TSHOOJeTXWVfCHWVePUB DAWB
eNRES TOS"),
  (0x16B7D, "aPAHAWH HMONG CLANxaTSHEEJeYEEGeLISeLAUJeXYOOJeKOOeHAWJeMUASeTHOJeTSABePHABeKHABeHAM
eVAJeFAJeYAJeTSWBeKWMeVWJ"),
  (0x16E40, "aMEDEFAIDRINnptaMdSdVdWdATIUdZdKPdPdTdGdFdIdKdAdJdEdBdCdUdYUdLdQdHPdNYdXdDdOEdNdRdOdAI
dYbxgtaMdSdVdWdATIUdZdKPdPdTdGdFdIdKdAdJdEdBdCdUdYUdLdQdHPdNYdXdDdOEdNdRdOdAIdYbpgzzcuvczccylcqncqi
cxecwpcptcufbunyecELEVENcTWELVEcTHIRTEENcFOURTEENcFIFTEENcSIXTEENcSEVENTEENcEIGHTEENcNINETEEN
bpguvmiqkczcmiqkcylmiqkboebqqxqbxyAIVAbqdOH"),
  (0x16F00, "aMIAOtaPAcBAcYI PAcPLAcMAcMHAcmrMAcFAcVAcVFAcTAcDAcYIyydTAcyycovcNAcNHAcYIuhcmrNAcuh
cNNHAcLAcLYAcLHAcLHYAcTLHAcDLHAcTLHYAcDLHYAcKAcGAcYI KAcQAcQGAcuecNGHAcmruecHAcXAcqtcGHHAcTSSAcDZZA
cupcNYHAcTSHAcDZHAcYI TSHAdDZHAcREFORMED TSHAcwrcxocZHAcZSHAcTSAcDZAcYI TSAcSAcZAcZSAcZZAcZZSAcmrZZA
cZZYAcZZSYAcWAcAHcHHAcBRIcSYIcDZYIcTEcTSEcRTE"),
  (0x16F4F, "aMIAOxaogtumzbtaNASALIZATIONbxaASPIRATIONcREFORMED VOICINGdASPIRATIONbzqxaAdAAdAHHdAN
dANGdOdOOdWOdWdEdENdENGdOEYdIdIAdIANdIANGdIOdIEdIIdIUdINGdUdUAdUANdUANGdUUdUEIdUNGdYdYIdAEdAEEdERR
dROUNDED ERRdERdROUNDED ERdAIdEIdAUdOUdNdNGdUOGdYUIdOGdOERdVWdIGdEAdIONGdUI"),
  (0x16F8F, "aMIAOyqwbcyswbcmbcnbbtaTONE-2cTONE-3cTONE-4cTONE-5cTONE-6cTONE-7cTONE-8cREFORMED TONE-1
dTONE-2dTONE-4dTONE-5dTONE-6dTONE-8"),
  (0x16FE0, "aTANGUT ITERATIONtnaNUSHU ITERATIONtnausCHINESErrtncITERATIONtnaKHITANxgwkFILLER"),
  (0x16FF0, "aVIETNAMESEmiREADINGtnCAeNHAY"),
  (0x1AFF0, "asltaMINNAN TONE-2dTONE-3dTONE-4dTONE-5"),
  (0x1AFF5, "asltaMINNAN TONE-7dTONE-8dNASALIZED TONE-1eTONE-2eTONE-3eTONE-4eTONE-5"),
  (0x1AFFD, "asltaMINNAN NASALIZED TONE-7eTONE-8"),
  (0x1B000, "asltamrEaHIRAGANAtamrYEaHENTAIGANAtaA-1cA-2cA-3cA-WOcI-1cI-2cI-3cI-4cU-1cU-2cU-3cU-4
cU-5cE-2cE-3cE-4cE-5cE-6cO-1cO-2cO-3cKA-1cKA-2cKA-3cKA-4cKA-5cKA-6cKA-7cKA-8cKA-9cKA-10cKA-11cKA-KE
cKI-1cKI-2cKI-3cKI-4cKI-5cKI-6cKI-7cKI-8cKU-1cKU-2cKU-3cKU-4cKU-5cKU-6cKU-7cKE-1cKE-2cKE-3cKE-4cKE-5
cKE-6cKO-1cKO-2cKO-3cKO-KIcSA-1cSA-2cSA-3cSA-4cSA-5cSA-6cSA-7cSA-8cSI-1cSI-2cSI-3cSI-4cSI-5cSI-6
cSU-1cSU-2cSU-3cSU-4cSU-5cSU-6cSU-7cSU-8cSE-1cSE-2cSE-3cSE-4cSE-5cSO-1cSO-2cSO-3cSO-4cSO-5cSO-6cSO-7
cTA-1cTA-2cTA-3cTA-4cTI-1cTI-2cTI-3cTI-4cTI-5cTI-6cTI-7cTU-1cTU-2cTU-3cTU-4cTU-TOcTE-1cTE-2cTE-3
cTE-4cTE-5cTE-6cTE-7cTE-8cTE-9cTO-1cTO-2cTO-3cTO-4cTO-5cTO-6cTO-RAcNA-1cNA-2cNA-3cNA-4cNA-5cNA-6
cNA-7cNA-8cNA-9cNI-1cNI-2cNI-3cNI-4cNI-5cNI-6cNI-7cNI-TEcNU-1cNU-2cNU-3cNE-1cNE-2cNE-3cNE-4cNE-5
cNE-6cNE-KOcNO-1cNO-2cNO-3cNO-4cNO-5cHA-1cHA-2cHA-3cHA-4cHA-5cHA-6cHA-7cHA-8cHA-9cHA-10cHA-11cHI-1
cHI-2cHI-3cHI-4cHI-5cHI-6cHI-7cHU-1cHU-2cHU-3cHE-1cHE-2cHE-3cHE-4cHE-5cHE-6cHE-7cHO-1cHO-2cHO-3cHO-4
cHO-5cHO-6cHO-7cHO-8cMA-1cMA-2cMA-3cMA-4cMA-5cMA-6cMA-7cMI-1cMI-2cMI-3cMI-4cMI-5cMI-6cMI-7cMU-1cMU-2
cMU-3cMU-4cME-1cME-2cME-MAcMO-1cMO-2cMO-3cMO-4cMO-5cMO-6cYA-1cYA-2cYA-3cYA-4cYA-5cYA-YOcYU-1cYU-2
cYU-3cYU-4cYO-1cYO-2cYO-3cYO-4cYO-5cYO-6cRA-1cRA-2cRA-3cRA-4cRI-1cRI-2cRI-3cRI-4cRI-5cRI-6cRI-7cRU-1
cRU-2cRU-3cRU-4cRU-5cRU-6cRE-1cRE-2cRE-3cRE-4cRO-1cRO-2cRO-3cRO-4cRO-5cRO-6cWA-1cWA-2cWA-3cWA-4cWA-5
cWI-1cWI-2cWI-3cWI-4cWI-5cWE-1cWE-2cWE-3cWE-4cWO-1cWO-2cWO-3cWO-4cWO-5cWO-6cWO-7cN-MU-MO-1cN-MU-MO-2
aHIRAGANAtamrWUasltamrYIdYEdWU"),
  (0x1B150, "aHIRAGANAtaxgWIdWEdWO"),
  (0x1B164, "asltaxgWIdWEdWOdN"),
  (0x1BC00, "aDUPLOYANtaHcXcPcTcFcKcLcBcDcVcGcRcP NcD ScF NcK McR ScTHcSLOAN DHcDHcKKcSLOAN JcHLcLH
cRHcMcNcJcScM NcN McJ McS JcMzvpjcNzvpjcJzvpjeplrzmkmbcSzvpjfnbcM ScN ScJ ScS ScM N ScN M ScJ M S
cS J ScJ SzvpjdNeScS TeRdPeRcT SdR ScWcWHcW RcS NdMcK R ScG R ScS KeRcAcSLOAN OWcOAcOcAOUcIcEcIEcwxI
cUIcEEcSLOAN EHcROMANIAN IcSLOAN EEctgIcYEcUcEUcXWcU NctgUcROMANIAN UcUHcSLOAN UcOOHcOWcOUcWAcWOcWI
cWEIcWOWcNASAL UdOdIdAcPERNIN ANdAMcSLOAN ENdANdONczpM"),
  (0x1BC70, "aDUPLOYAN AFFIXsursSECANTcMIDrsSECANTcwbrsSECANTcthzlSECANTcMIDzlSECANTcrozlSECANT
cATTACHED SECANTdLEFT-TO-RIGHT SECANTdTANGENTdyadErrdIrrdTANGENTrr"),
  (0x1BC80, "aDUPLOYAN AFFIXromddTIGHTmddqwdtgqwdpjdnwdtddWAVEdzl"),
  (0x1BC90, "aDUPLOYAN AFFIXthmddTIGHTmddqwdtgqwdpjdnwdtddWAVEdzldmt"),
  (0x1BC9C, "aDUPLOYANxaOzvojbTHICKtaSELECTORbpntnbvqCHINOOKqqxqaSHORTHAND FORMATtaOVERLAP
cCONTINUING OVERLAPcppSTEPcUP STEP"),
  (0x1CF00, "aZNAMENNYodtnGORAZDO NIZKO SspONsudNIZKO SspONsudTSATA ONsudGORAZDO NIZKO ONsu
dNIZKO ONsudSREDNE ONsudMALO POVYSHE ONsudPOVYSHE ONsudVYSOKO ONsudMALO POVYSHE S KHOKHLOM ONsu
dPOVYSHE S KHOKHLOM ONsudVYSOKO S KHOKHLOM ONsudGORAZDO NIZKO SspONwbdNIZKO SspONwbdTSATA ONwb
dGORAZDO NIZKO ONwbdNIZKO ONwbdSREDNE ONwbdMALO POVYSHE ONwbdPOVYSHE ONwbdVYSOKO ONwb
dMALO POVYSHE S KHOKHLOM ONwbdPOVYSHE S KHOKHLOM ONwbdVYSOKO S KHOKHLOM ONwbdTSATA Ssp
dMALO POVYSHE SspdSTRANNO MALO POVYSHEdPOVYSHE SspeSTRANNOdVYSOKO SspdMALO POVYSHE STRANNO
dGORAZDO VYSOKOdZELOdONdRAVNOdTIKHAYAdBORZAYAdUDARKAdPODVERTKAdLOMKAdKUPNAYAdKACHKAdZEVOKdSKOBA
dRAZSEKAdKRYZH ONsu"),
  (0x1CF30, "aZNAMENNYodTONAL RANGEtnMRACHNOfSVETLOfTRESVETLOctnZADERZHKAdDEMESTVENNY ZADERZHKA
dOTSECHKAdPODCHASHIEezvzlxsdCHASHKAePOLNAYAdOBLACHKOdSOROCHYA NOZHKAdTOCHKAdDVOETOCHIE
cATTACHINGzlOMETctnCURVED OMETdKRYZHctiTONAL RANGE INDICATORbPRIZNAKtuLEVEL-2dLEVEL-3dDIRECTION FLIP
dKRYZHdROG"),
  (0x1CF50, "aZNAMENNY NEUME KRYUKdTIKHYcPARAKLITcDVA V CHELNUcKLYUCHcZANOZHEKcSTOPITSAdS OCHKOM
cPEREVODKAdNEPOSTOYANNAYAcSTOPITSAzvSOROCHYA NOZHKAcCHELYUSTKAcPALKAcZAPYATAYAcGOLUBCHIK BORZYdTIKHY
dMRACHNYdSVETLYdTRESVETLYcVRAKHIYA PROSTAYAdMRACHNAYAdSVETLAYAdTRESVETLAYAdKLYUCHEVAYA PROSTAYA
eMRACHNAYAeSVETLAYAeTRESVETLAYAcpnZAPYATAYAcwaCHELYUSTKAcDERBITSAcKHAMILOcCHASHKAcPODCHASHIE
cSKAMEYTSA MRACHNAYAdSVETLAYAdTRESVETLAYAdTIKHAYAcDEMESTVENNY KLYUCHcSKAMEYTSA KLYUCHEVAYA SVETLAYA
dKLYUCHENEPOSTOYANNAYAdKLYUCHEVAYA TIKHAYAdDVOECHELNAYA PROSTAYAeSVETLAYAeNEPOSTOYANNAYAeKLYUCHEVAYA
cSLOZHITIEdS ZAPYATOYdZAKRYTOEdSspcKRYZHcROGcFITAcKOBYLAcZMEYTSAcSTATYAdS ZAPYATOYespeZAPYATOY Isp
espI ZAPYATOYdZAKRYTAYAeS ZAPYATOYdS ROGOMeDVUMYA ZAPYATYMIeZAPYATOY I PODCHASHIEMcPOLKULIZMY
cSTATYA NEPOSTOYANNAYAcSTRELA PROSTAYAdMRACHNOTIKHAYAdKRYZHEVAYAdPOLUPOVODNAYAdPOVODNAYA
dNEPOSTOYANNAYAdKLYUCHEPOVODNAYAdKLYUCHENEPOSTOYANNAYAdTIKHAYA PUTNAYAdDVOECHELNAYA
dDVOECHELNOKRYZHEVAYAdDVOECHELNOPOVODNAYAdDVOECHELNAYA KLYUCHEVAYAdDVOECHELNOPOVODNAYA KLYUCHEVAYA
dGROMNAYAzvxcZAPYATAYAdGROMOPOVODNAYAzvxcZAPYATAYAdGROMNAYAdGROMOPOVODNAYAezvpnZAPYATAYA
dGROMOKRYZHEVAYAePOVODNAYAcMECHIKdPOVODNYdKLYUCHEVOYdKLYUCHEPOVODNYdKLYUCHENEPOSTOYANNY
cSTRELA TRYASOGLASNAYAdTRYASOPOVODNAYAdTRYASOSTRELNAYAcOSOKAdSVETLAYAdTRESVETLAYA
dKRYUKOVAYA SVETLAYAdKLYUCHEVAYA SVETLAYAeNEPOSTOYANNAYAcSTRELA KRYUKOVAYAePOVODNAYA
eGROMNAYAzvxcZAPYATAYAeGROMOPOVODNAYAzvxcZAPYATAYAeGROMNAYAeGROMOPOVODNAYAfzvpnZAPYATAYA
eGROMOKRYZHEVAYAfPOVODNAYAeTRYASKAcKUFISMAcOBLAKOcDUDAcNEMKAcPAUK"),
  (0x1D000, "aBYZANTINEubxyvpdDASEIAdvgdOXEIA EKFONITIKONeDIPLIdVAREIA EKFONITIKONeDIPLIdKATHISTI
dSYRMATIKIdPARAKLITIKIdYPOKRISISeDIPLIdKREMASTIdAPESO EKFONITIKONdEXO EKFONITIKONdTELEIAdKENTIMATA
dAPOSTROFOSeDIPLIdSYNEVMAdTHITAdOLIGONmsdGORGONmsdPSILONdCHAMILONdVATHYdISONmsdKENTIMAmsdKENTIMATAms
dSAXIMATAdPARICHONdSTAVROS APODEXIAdOXEIAImsdVAREIAImsdAPODERMAmsdAPOTHEMAdKLASMAdREVMAdPIASMAms
dTINAGMAdANATRICHISMAdSEISMAdSYNAGMAmseMETA STAVROUdOYRANISMAmsdTHEMAdLEMOIdDYOdTRIAdTESSERA
dKRATIMATAdAPESO EXO NEOdFTHORAmsdIMIFTHORAdTROMIKONmsdKATAVA TROMIKONdPELASTONdPSIFISTONdKONTEVMA
dCHOREVMAmsdRAPISMAdPARAKALESMAmsdPARAKLITIKImsdICHADINdNANAdPETASMAdKONTEVMA ALLOdTROMIKON ALLO
dSTRAGGISMATAdGRONTHISMATAdISON NEOdOLIGON NEOdOXEIA NEOdPETASTIdKOUFISMAdPETASTOKOUFISMA
dKRATIMOKOUFISMAdPELASTON NEOdKENTIMATA NEO ANOdKENTIMA NEO ANOdYPSILIdAPOSTROFOS NEO
dAPOSTROFOI SYNDESMOS NEOdYPORROIdKRATIMOYPORROONdELAFRONdCHAMILIdMIKRON ISONdVAREIA NEOdPIASMA NEO
dPSIFISTON NEOdOMALONdANTIKENOMAdLYGISMAdPARAKLITIKI NEOdPARAKALESMA NEOdETERON PARAKALESMAdKYLISMA
dANTIKENOKYLISMAdTROMIKON NEOdEKSTREPTONdSYNAGMA NEOdSYRMAdCHOREVMA NEOdEPEGERMAdSEISMA NEO
dXIRON KLASMAdTROMIKOPSIFISTONdPSIFISTOLYGISMAdTROMIKOLYGISMAdTROMIKOPARAKALESMAdPSIFISTOPARAKALESMA
dTROMIKOSYNAGMAdPSIFISTOSYNAGMAdGORGOSYNTHETONdARGOSYNTHETONdETERON ARGOSYNTHETONdOYRANISMA NEO
dTHEMATISMOS ESOeEXOdTHEMA APLOUNdTHES KAI APOTHESdKATAVASMAdENDOFONONdYFEN KATOeANOdSTAVROS
dKLASMA ANOdDIPLImsdKRATIMAmseALLOeNEOdAPODERMA NEOdAPLIdDIPLIdTRIPLIdTETRAPLIdKORONIS
dLEIMMA ENOS CHRONOUeDYO CHRONONeTRION CHRONONeTESSARON CHRONONeIMISEOS CHRONOUdGORGON NEO ANO
ePARESTIGMENON ARISTERAfDEXIAdDIGORGONePARESTIGMENON ARISTERA KATOgANOfDEXIAdTRIGORGONdARGON
dIMIDIARGONdDIARGONdAGOGI POLI ARGIeARGOTERIeARGIeMETRIAeMESIeGORGIeGORGOTERIePOLI GORGI
dMARTYRIA PROTOS ICHOSeALLI PROTOS ICHOSeDEYTEROS ICHOSeALLI DEYTEROS ICHOSeTRITOS ICHOSeTRIFONIAS
eTETARTOS ICHOSfLEGETOS ICHOSeLEGETOS ICHOSePLAGIOS ICHOSdISAKIA TELOUS ICHIMATOS
dAPOSTROFOI TELOUS ICHIMATOSdFANEROSIS TETRAFONIASeMONOFONIASeDIFONIASdMARTYRIA VARYS ICHOS
ePROTOVARYS ICHOSePLAGIOS TETARTOS ICHOSdGORTHMIKON N APLOUNfDIPLOUNdENARXIS KAI FTHORA VOUdIMIFONON
dIMIFTHORONdFTHORAmsDEYTEROU ICHOUeDIATONIKI PAfNANAeNAOS ICHOSeDIATONIKI DIeSKLIRON DIATONON DI
eDIATONIKI KEfZOfNI KATOgANOeMALAKON CHROMA DIFONIASgMONOFONIASdFHTORA SKLIRON CHROMA VASIS
dFTHORA SKLIRON CHROMA SYNAFIeNENANOdCHROA ZYGOSeKLITONeSPATHIdFTHORA I YFESIS TETARTIMORION
eENARMONIOS ANTIFONIAdYFESIS TRITIMORIONdDIESIS TRITIMORIONeTETARTIMORIONeAPLI DYO DODEKATA
eMONOGRAMMOS TESSERA DODEKATAeDIGRAMMOS EX DODEKATAeTRIGRAMMOS OKTO DODEKATA
dYFESIS APLI DYO DODEKATAeMONOGRAMMOS TESSERA DODEKATAeDIGRAMMOS EX DODEKATA
eTRIGRAMMOS OKTO DODEKATAdGENIKI DIESISeYFESISdDIASTOLI APLI MIKRIfMEGALIeDIPLIeTHESEOS
dSIMANSIS THESEOSfDISIMOUfTRISIMOUfTETRASIMOUeARSEOSfDISIMOUfTRISIMOUfTETRASIMOUdDIGRAMMA GG
dDIFTOGGOS OUdSTIGMAdARKTIKO PAeVOUeGAeDIeKEeZOeNIdKENTIMATA NEO MESOdKENTIMA NEO MESO
dKENTIMATA NEO KATOdKENTIMA NEO KATOdKLASMA KATOdGORGON NEO KATO"),
  (0x1D100, "aubxyxcBARLINEcpnBARLINEcqgBARLINEcvzqgBARLINEcDASHED BARLINEcwxBARLINEcsuREPEATxa
cwbREPEATxacREPEATplcDAL SEGNOcDA CAPOcSEGNOcCODAcREPEATED FIGURE-1dFIGURE-2dFIGURE-3cFERMATAdnb
cBREATHtncCAESURAcBRACEcnkcONE-LINE STAFFcTWO-LINE STAFFcTHREE-LINE STAFFcFOUR-LINE STAFF
cFIVE-LINE STAFFcSIX-LINE STAFFcSIX-STRING FRETBOARDcFOUR-STRING FRETBOARDcG CLEFeOTTAVA ALTAfBASSA
cC CLEFcF CLEFeOTTAVA ALTAfBASSAcDRUM CLEF-1dCLEF-2"),
  (0x1D129, "aubxytzMEASURE RESTcpnSHARPdFLATcFLAT UPdppcNATURAL UPdppcSHARP UPdppcvtyqSHARPeFLAT
cCOMMON TIMEcCUT TIMEcOTTAVA ALTAdBASSAcQUINDICESIMA ALTAdBASSAcMULTI RESTcWHOLE RESTcrdRESTcvtREST
cpuRESTcSIXTEENTH RESTcTHIRTY-SECOND RESTcSIXTY-FOURTH RESTcuvruTWENTY-EIGHTH RESTcXulcvjulcnwXul
cxmulzuengcyuulUPzufngesuzufngewbzufngeppzufngeUPwbzugngctvulzuengcTRIANGLE-ROUNDulppzufngcvful
cVOIDulculngcNULLulcCLUSTERulzuengcnlcWHOLE NOTEcrdNOTEcvtNOTEcpuNOTEcSIXTEENTH NOTE
cTHIRTY-SECOND NOTEcSIXTY-FOURTH NOTEcuvruTWENTY-EIGHTH NOTEcodSTEMdSPRECHGESANG STEMdTREMOLO-1
dTREMOLO-2dTREMOLO-3cFINGERED TREMOLO-1dTREMOLO-2dTREMOLO-3codAUGMENTATIONpjdFLAG-1dFLAG-2dFLAG-3
dFLAG-4dFLAG-5cBEGIN BEAMcEND BEAMcBEGIN TIEcEND TIEcBEGIN SLURcEND SLURcBEGIN PHRASEcEND PHRASE
codmcdSTACCATOdTENUTOdSTACCATISSIMOdMARCATOdMARCATO-STACCATOdACCENT-STACCATOdLOUREcARPEGGIATO UPdpp
codDOITdRIPdFLIPdSMEARdBENDdpnTONGUEdyxTONGUEcRINFORZANDOcSUBITOcZcPIANOcMEZZOcFORTEcCRESCENDO
cDECRESCENDOcGRACE NOTE SLASHeNO SLASHcTRcTURNcsdTURNcTURN SLASHdUPcuzSTROKE-1dSTROKE-2dSTROKE-3
dSTROKE-4dSTROKE-5dSTROKE-6dSTROKE-7dSTROKE-8dSTROKE-9dSTROKE-10dSTROKE-11cHAUPTSTIMMEcNEBENSTIMME
cEND OF STIMMEcDEGREE SLASHcodppBOWdUP BOWdHARMONICdSNAP PIZZICATOcPEDALtndUPtncrdPEDALtn
cGLISSANDO UPdppczvFINGERNAILScDAMPdALLcMAXIMAcLONGAcBREVIScSEMIBREVISzudngcMINIMAdngcSEMIMINIMAzu
dngcFUSAzudngcLONGA PERFECTA RESTdIMPERFECTA RESTcBREVIS RESTcSEMIBREVIS RESTcMINIMA REST
cSEMIMINIMA RESTcTEMPUS PERFECTUM CUM PROLATIONE PERFECTAgIMPERFECTAgPERFECTA DIMINUTION-1
dIMPERFECTUM CUM PROLATIONE PERFECTAgIMPERFECTAhDIMINUTION-1hDIMINUTION-2hDIMINUTION-3cCROIX
cGREGORIAN C CLEFdF CLEFcxmBcVIRGAcPODATUScCLIVIScSCANDICUScCLIMACUScTORCULUScPORRECTUSdFLEXUS
cSCANDICUS FLEXUScTORCULUS RESUPINUScPES SUBPUNCTIScKIEVAN C CLEFdEND OF PIECEdqgNOTEdRECITATIVEtn
dWHOLE NOTEdrdNOTEdvtNOTE STEMppgUPdpuNOTE STEMppgUPdFLATxacSORIcKORON"),
  (0x1D200, "aqyVOCAL NOTATION SYMBOL-1dSYMBOL-2dSYMBOL-3dSYMBOL-4dSYMBOL-5dSYMBOL-6dSYMBOL-7
dSYMBOL-8dSYMBOL-9dSYMBOL-10dSYMBOL-11dSYMBOL-12dSYMBOL-13dSYMBOL-14dSYMBOL-15dSYMBOL-16dSYMBOL-17
dSYMBOL-18dSYMBOL-19dSYMBOL-20dSYMBOL-21dSYMBOL-22dSYMBOL-23dSYMBOL-24dSYMBOL-50dSYMBOL-51dSYMBOL-52
dSYMBOL-53dSYMBOL-54bINSTRUMENTAL NOTATION SYMBOL-1dSYMBOL-2dSYMBOL-4dSYMBOL-5dSYMBOL-7dSYMBOL-8
dSYMBOL-11dSYMBOL-12dSYMBOL-13dSYMBOL-14dSYMBOL-17dSYMBOL-18dSYMBOL-19dSYMBOL-23dSYMBOL-24dSYMBOL-25
dSYMBOL-26dSYMBOL-27dSYMBOL-29dSYMBOL-30dSYMBOL-32dSYMBOL-36dSYMBOL-37dSYMBOL-38dSYMBOL-39dSYMBOL-40
dSYMBOL-42dSYMBOL-43dSYMBOL-45dSYMBOL-47dSYMBOL-48dSYMBOL-49dSYMBOL-50dSYMBOL-51dSYMBOL-52dSYMBOL-53
dSYMBOL-54aodqyubTRISEMEdTETRASEMEdPENTASEMEaqyubLEIMMA"),
  (0x1D2E0, "aMAYAN NUMERALzzcuvczccylcqncqicxecwpcptcufcyecELEVENcTWELVEcTHIRTEENcFOURTEENcFIFTEEN
cSIXTEENcSEVENTEENcEIGHTEENcNINETEEN"),
  (0x1D300, "aMONOGRAMqjEARTHaDIGRAMqjHEAVENLY EARTHcHUMAN EARTHcEARTHLY HEAVENdHUMANcEARTH
aTETRAGRAMqjnscqqnwcMIREDcBARRIERcKEEPINGxgcCONTRARIETYcASCENTcOPPOSITIONcBRANCHING OUT
cDEFECTIVENESS OR DISTORTIONcDIVERGENCEcYOUTHFULNESScINCREASEcPENETRATIONcREACHcCONTACTcHOLDING BACK
cWAITINGcFOLLOWINGcADVANCEcRELEASEcRESISTANCEcEASEcJOYcCONTENTIONcENDEAVOURcDUTIEScCHANGE
cDECISIVENESScniRESOLUTIONcPACKINGcLEGIONcCLOSENESScKINSHIPcGATHERINGcSTRENGTHcPURITYcFULLNESS
cRESIDENCEcLAW OR MODELcRESPONSEcGOING TO MEETcENCOUNTERScSTOVEcGREATNESScENLARGEMENTcPATTERNcRITUAL
cFLIGHTcVASTNESS OR WASTINGcCONSTANCYcMEASUREcETERNITYcUNITYcDIMINISHMENTcobtwcGUARDEDNESS
cGATHERING INcMASSINGcACCUMULATIONcEMBELLISHMENTcDOUBTcWATCHcSINKINGcINNERcDEPARTUREcDARKENING
cDIMMINGcEXHAUSTIONcSEVERANCEcSTOPPAGEcHARDNESScCOMPLETIONcCLOSUREcFAILUREcAGGRAVATIONcCOMPLIANCE
cONyhVERGEcDIFFICULTIEScLABOURINGcFOSTERING"),
  (0x1D360, "aCOUNTING ROD UNITpguvezceyleqneqiexeewpepteufcTENSpguvezceyleqneqiexeewpepteuf
arvTALLYtnuvdzcdyldqndqiaTALLYtnuvcqi"),
  (0x1D400, "atoninpAdBdCdDdEdFdGdHdIdJdKdLdMdNdOdPdQdRdSdTdUdVdWdXdYdZcxgAdBdCdDdEdFdGdHdIdJdKdLdM
dNdOdPdQdRdSdTdUdVdWdXdYdZbITALICnpAdBdCdDdEdFdGdHdIdJdKdLdMdNdOdPdQdRdSdTdUdVdWdXdYdZcxgAdBdCdDdEdF
dG"),
  (0x1D456, "atoITALICxgIdJdKdLdMdNdOdPdQdRdSdTdUdVdWdXdYdZbniITALICnpAeBeCeDeEeFeGeHeIeJeKeLeMeNeO
ePeQeReSeTeUeVeWeXeYeZdxgAeBeCeDeEeFeGeHeIeJeKeLeMeNeOePeQeReSeTeUeVeWeXeYeZbwknpA"),
  (0x1D49E, "atowknpCdD"),
  (0x1D4A2, "atowknpG"),
  (0x1D4A5, "atowknpJdK"),
  (0x1D4A9, "atowknpNdOdPdQ"),
  (0x1D4AE, "atowknpSdTdUdVdWdXdYdZcxgAdBdCdD"),
  (0x1D4BB, "atowkxgF"),
  (0x1D4BD, "atowkxgHdIdJdKdLdMdN"),
  (0x1D4C5, "atowkxgPdQdRdSdTdUdVdWdXdYdZbniwknpAeBeCeDeEeFeGeHeIeJeKeLeMeNeOePeQeReSeTeUeVeWeXeYeZ
dxgAeBeCeDeEeFeGeHeIeJeKeLeMeNeOePeQeReSeTeUeVeWeXeYeZbFRAKTURnpAdB"),
  (0x1D507, "atoFRAKTURnpDdEdFdG"),
  (0x1D50D, "atoFRAKTURnpJdKdLdMdNdOdPdQ"),
  (0x1D516, "atoFRAKTURnpSdTdUdVdWdXdY"),
  (0x1D51E, "atoFRAKTURxgAdBdCdDdEdFdGdHdIdJdKdLdMdNdOdPdQdRdSdTdUdVdWdXdYdZbponpAdB"),
  (0x1D53B, "atoponpDdEdFdG"),
  (0x1D540, "atoponpIdJdKdLdM"),
  (0x1D546, "atoponpO"),
  (0x1D54A, "atoponpSdTdUdVdWdXdY"),
  (0x1D552, "atopoxgAdBdCdDdEdFdGdHdIdJdKdLdMdNdOdPdQdRdSdTdUdVdWdXdYdZbniFRAKTURnpAeBeCeDeEeFeGeHeI
eJeKeLeMeNeOePeQeReSeTeUeVeWeXeYeZdxgAeBeCeDeEeFeGeHeIeJeKeLeMeNeOePeQeReSeTeUeVeWeXeYeZbwjnpAdBdCdD
dEdFdGdHdIdJdKdLdMdNdOdPdQdRdSdTdUdVdWdXdYdZcxgAdBdCdDdEdFdGdHdIdJdKdLdMdNdOdPdQdRdSdTdUdVdWdXdYdZ
cninpAeBeCeDeEeFeGeHeIeJeKeLeMeNeOePeQeReSeTeUeVeWeXeYeZdxgAeBeCeDeEeFeGeHeIeJeKeLeMeNeOePeQeReSeTeU
eVeWeXeYeZcITALICnpAeBeCeDeEeFeGeHeIeJeKeLeMeNeOePeQeReSeTeUeVeWeXeYeZdxgAeBeCeDeEeFeGeHeIeJeKeLeMeN
eOePeQeReSeTeUeVeWeXeYeZcniITALICnpAfBfCfDfEfFfGfHfIfJfKfLfMfNfOfPfQfRfSfTfUfVfWfXfYfZexgAfBfCfDfEfF
fGfHfIfJfKfLfMfNfOfPfQfRfSfTfUfVfWfXfYfZbMONOSPACEnpAdBdCdDdEdFdGdHdIdJdKdLdMdNdOdPdQdRdSdTdUdVdWdX
dYdZcxgAdBdCdDdEdFdGdHdIdJdKdLdMdNdOdPdQdRdSdTdUdVdWdXdYdZbITALICxgpkIeJ"),
  (0x1D6A8, "atoninpmhdBETAdqrdoydpxdZETAdETAdyidsedskdLAMDAdMUdNUdXIduudPIdRHOdyixydwzdTAUdzhdPHI
dCHIdPSIdutcNABLAcxgmhdBETAdqrdoydpxdZETAdETAdyidsedskdLAMDAdMUdNUdXIduudPIdRHOdqgwzdwzdTAUdzhdPHI
dCHIdPSIdutcPARTIAL DIFFERENTIALcpxxycyixycskxycPHIxycRHOxycPIxybITALICnpmhdBETAdqrdoydpxdZETAdETA
dyidsedskdLAMDAdMUdNUdXIduudPIdRHOdyixydwzdTAUdzhdPHIdCHIdPSIdutcNABLAcxgmhdBETAdqrdoydpxdZETAdETA
dyidsedskdLAMDAdMUdNUdXIduudPIdRHOdqgwzdwzdTAUdzhdPHIdCHIdPSIdutcPARTIAL DIFFERENTIALcpxxycyixycskxy
cPHIxycRHOxycPIxybniITALICnpmheBETAeqreoyepxeZETAeETAeyieseeskeLAMDAeMUeNUeXIeuuePIeRHOeyixyewzeTAU
ezhePHIeCHIePSIeutdNABLAdxgmheBETAeqreoyepxeZETAeETAeyieseeskeLAMDAeMUeNUeXIeuuePIeRHOeqgwzewzeTAU
ezhePHIeCHIePSIeutdPARTIAL DIFFERENTIALdpxxydyixydskxydPHIxydRHOxydPIxybwjninpmheBETAeqreoyepxeZETA
eETAeyieseeskeLAMDAeMUeNUeXIeuuePIeRHOeyixyewzeTAUezhePHIeCHIePSIeutdNABLAdxgmheBETAeqreoyepxeZETA
eETAeyieseeskeLAMDAeMUeNUeXIeuuePIeRHOeqgwzewzeTAUezhePHIeCHIePSIeutdPARTIAL DIFFERENTIALdpxxydyixy
dskxydPHIxydRHOxydPIxydITALICnpmhfBETAfqrfoyfpxfZETAfETAfyifsefskfLAMDAfMUfNUfXIfuufPIfRHOfyixyfwz
fTAUfzhfPHIfCHIfPSIfuteNABLAexgmhfBETAfqrfoyfpxfZETAfETAfyifsefskfLAMDAfMUfNUfXIfuufPIfRHOfqgwzfwz
fTAUfzhfPHIfCHIfPSIfutePARTIAL DIFFERENTIALepxxyeyixyeskxyePHIxyeRHOxyePIxybninpDIGAMMAcxgDIGAMMA"),
  (0x1D7CE, "atonipgzzduvdzcdyldqndqidxedwpdptdufbpopgzzduvdzcdyldqndqidxedwpdptdufbwjpgzzduvdzcdyl
dqndqidxedwpdptdufcnipgzzeuvezceyleqneqiexeewpepteufbMONOSPACEpgzzduvdzcdyldqndqidxedwpdptduf
aSIGNWRITINGrirxbrhrxbHAND-CUPrxbHAND-OVALrxbrjrxbrgrxbrirxndbrhrxndbriynUNDERrxndcrxvxKNUCKLE
dCUPPEDdrpethbrhrxHINGEbrirxtsbrhrxtsbrirxtsndevxKNUCKLESerpdUPtsrpdrptsUPdtsoffrxndftsndfCUPPEDfrp
eokbrhrxtsokbritsndvarxcrxndvatsdtsynbrhrxtsynbrirxtsxrynndendynxreynnderpSPREADynwydUPtsrpynwyhof
drptsUPynwydtsUP SPREADynqmeynCUPPEDfnxfHOOKEDfrpcynnerxtsxrcrxtsofynwyhofhndctsynHOOKEDrxUP
crxynHOOKEDtsUPdtsofrpynwyeokynwyeofynqmfCUPPEDynqmctsynCUPPEDrxUPcrxynCUPPEDtsUPctsynnxrxUPgrp
crxynANGLED OUTtsUPfINtsUPenxtsUPdtsynofrpfANGLED OUTfANGLEDctsynANGLED OUTrxUPhokfrxUP
crxynHOOKEDtsrpbHAND-FLATqnqhenderpeoffSPLITbHAND-CLAWqnqhofbriqnqhofndbrjqnqhofbHAND-FLATqiqhSPREAD
cHEELqiqhSPREADcqiqhSPREADqnndcHEELqiqhSPREADqnndcqiqhSPREADndcHEELqiqhSPREADndcqiqhSPREADynqm
bHAND-CUPqiqhSPREADfuwbrjqiqhSPREADuwbHAND-OVALqiqhSPREADbHAND-FLATqiqhSPREADrpgynwygNOynbHAND-FLAT
cnePALM FACINGScHEELcynwycHEELynwycynnddqmcSPLITrxynwydnseynwygnddtebHAND-CLAWcynwycNOyncynqm
bHAND-HOOK CURLICUEbHAND-HOOKbHAND-CUPuwbHAND-CUPcuwynwycynwycuwNOyncNOyncuwynqmcynqm
bHAND-CURLICUEuwbHAND-CURLICUEbrhbHAND-OVALcynwycNOyncynqmbrjuwdynqmbrjcxgcuwynwycynwycuwNOyncNOyn
cynwyTOUCHINGrxdnetswebrgbrirxtswebrhrxtswebrjrxtswebrgrxtswebrjtebrirxtswendfofbrjrxtsweofbritepp
eRIPPLExrfCURVEDeOTHERSnxdUPcynUNDERteUPbrhteUPbHAND-OVALteUPbrgteUPbritevxKNUCKLEdnddTOUCHESyndyn
brjteynbriterxynbrjterxynbrgterxynrxynOUTgynbriterxbrhterxbrjterxbrgterxbrirxtstebrhrxtstebrjrxtste
cwebrgrxtstebrirxtsojtebrhrxtsojtebriweppbrjwepprxynrrtsbrgwepptsynrxojbriweUPdvxKNUCKLEdtebrhwete
bHAND-OVALwetebrgwetebriwetseofevxKNUCKLESdrxdynbHAND-HOOKweynbrirxwetebrhrxwete
bHAND-CURLICUErxweteONbHAND-HOOKrxweteOUTfINfUNDERbHAND-CUPrxwetebrjrxwetebrgrxweteOUTetebritspp
brjtsbritsUPbrhtsUPbritsvxKNUCKLEdUPynwybHAND-HOOKtsynbritsyntedtedwetebrhtswete
bHAND-CURLICUEtsweteONbHAND-CUPtswetebrjtswetebrgtsweteOUTfINetebrhtswetendbHAND-CLAWtsweteofgwy
bHAND-HOOKtsweteofOUTgINfofbrjrxrpbrirxynwybrjrxynwybrirxynwyynpcgofgndfrxndfBOTHndfrxHINGEeqmrxxr
gnderreCURLICUEeopynrzbHAND-CLAWrxynopynrzbrirxynopynUNDERenwbHAND-CUPrxyneuwbrjrxynuwessdynexg
brgrxynOUTeINdynbriyndHEELdwypceofenddqmdnerxtsetsweewetedUNDERzcqhdvazcqhdUNDERylqheqnqh
dvaqnvxKNUCKLESbricHEELbTOUCHxcctzcnebGRASPxcctzcnebSTRIKExcctzcnebBRUSHxcctzcnebRUBxcctzcne
bSURFACE SYMBOLScnebSQUEEZEssxccxgxccsstzcxgtzcSEQUENTIALbFLICKssxccxgxccsstzcxgtzcSEQUENTIAL
bSQUEEZE FLICKmjbMOVEMENT-HINGE UPppssexgdSEQUENTIALcppSEQUENTIALcUPppmjssfxgcwyTOwySCISSORS
btyFINGER CONTACTbtxFINGER CONTACTbtyxcxrxgetqesseLARGESTdWRIST FLEXcpnxrdWRIST FLEXdmjeWRIST FLEX
cojcyxxrMOVEMENTdWRIST FLEXdmjeWRIST FLEXcBENDxgdtqdsscoixgdtqdssdROTATIONcCHECKxgdtqdsscBOXxgdtqdss
cZIGZAGxgdtqdsscPEAKSxgdtqdssbTRAVEL-WALLPLANEwhxcdpndmjcwgxcdpndmjcSHAKINGcARM SPIRALxcepneyx
bMOVEMENT-DIAGONAL AWAYxgdtqdssdLARGESTcTOWARDSxgdtqdssdLARGESTcneAWAYxgetqesseLARGESTdTOWARDSxgetq
esseLARGESTbtxxcxrxgetqesseLARGESTdWRIST FLEXcpnxrdWRIST FLEXdmjeWRIST FLEXcojcyxxrMOVEMENT
dWRIST FLEXdmjMOVEMENTeWRIST FLEXcBENDcoixgdtqdsscCHECKcBOXxgdtqdsscZIGZAGxgdtqdsscPEAKSxgdtqdss
bTRAVEL-FLOORPLANEwgxcdpndmjcwhxcdpndmjcSHAKINGbtyopvtxgetqesseLARGESTdHALF-CIRCLExgetqesseLARGEST
dTHREE-QUARTERnwxgftqcHUMPxgdtqdsscLOOPxgdtqdssdxgpncWAVEoppnxgftqfsseyxxgftqfsscopTHENxrcCURVEDojxg
etqbwhxccpncmibtySHAKINGcoprqFRONT WALLcHUMPrqFRONT WALLcLOOPrqFRONT WALLcWAVErqFRONT WALL
bwhxcrqFRONT WALLcpnrqFRONT WALLcmjrqFRONT WALLbtyoprqCHESTcHUMPrqCHESTcLOOPrqCHESTcWAVErqCHEST
bwhxcrqCHESTcpnrqCHESTcmjrqCHESTbtyWAVEpcPATHxgftqfssbtxoprqCEILINGxgfsscHUMPrqCEILINGxgpnfsspnfxgyx
fssyxcLOOPrqCEILINGxgxcfssxcfxgpnfsspncWAVErqCEILINGxgfssbwgxcrqCEILINGcpnrqCEILINGcmjrqCEILING
btxoprqFLOORxgfsscHUMPrqFLOORxgpnfsspnfyxxgyxgssyxcLOOPrqFLOORxgxcfssxcfxgpnfsspncWAVErqFLOORxgfss
bwgxcrqFLOORcpnrqFLOORcmjrqFLOORbtxopxgdtqdssdLARGESTdCOMBINEDcHUMPxgcLOOPxgcWAVE SNAKEdxgdssbwgxc
cpncmjbtxSHAKING PARALLELbtyARMnwxgxcetqxcexgpnetqpnbtxARMnwrqWALLxgxcgtqxcgssxcgxgpngtqpngsspn
btyWRISTnwFRONTxcfpnbtxWRISTnwrqWALLxcgpnbtyFINGERnyxcepnbtxFINGERnyrqWALLxcgpnbDYNAMICmuxgdsscFAST
cSLOWcTENSEcRELAXEDcSIMULTANEOUSdmjcEVERY OTHER TIMEcGRADUALbHEADcRIMctyxrdTILTctxxrctyopctxop
cMOVEMENTnwbqeDIRECTION POSITION NOSEqmTILTINGfUP ORppiTILTINGbEYEBROWSxrUPduddpp
bDREAMY EYEBROWSudppdppuddUPuddudUPbFOREHEADudcCONTACTcWRINKLEDbEYESuwcSQUEEZEDcobbEYE BLINKxcdtz
bEYESrduwcWIDEuwcrdobcWIDENING MOVEMENTbEYE WINKbEYELASHES UPcppcFLUTTERINGbEYEGAZE-WALLPLANExrdpn
dmjbEYEGAZE-FLOORPLANExrdpndmjbEYEGAZE-WALLPLANE CURVEDbEYEGAZE-FLOORPLANE CURVED
bEYEGAZE-WALLPLANE CIRCLINGbCHEEKS PUFFEDcudcSUCKEDbTENSE CHEEKSrodtsdthbEARSbNOSEudcCONTACT
cWRINKLEScWIGGLESbAIR BLOWING OUTcSUCKING INcBLOWxgROTATIONScSUCKxgROTATIONSbBREATH INHALEcEXHALE
btwobuddqmdCONTACTcSMILEdWRINKLEDduwcFROWNdWRINKLEDduwcuwnwdqmdWRINKLEDdOVALeWRINKLEDeYAWNdRECTANGLE
eWRINKLEDeYAWNcKISSdqmdWRINKLEDcTENSEdqmdSUCKEDbLIPS PRESSED TOGETHERbLIPtivazgczgvatibtwCORNERS
cWRINKLESxcdpnbTONGUE STICKING OUT FARcLICKING LIPScTIPneLIPSdTOUCHINGrztwcrztwRELAXED
cMOVES AGAINST CHEEKcnsSTICKING OUTdrztwbTEETHcMOVEMENTcON TONGUEeMOVEMENTdLIPSeMOVEMENTcBITE LIPS
btyJAWbtxJAWbNECKbHAIRbEXCITEMENTbSHOULDER HIP SPINEdPOSITIONSbWALLPLANE SHOULDER HIP MOVE
bFLOORPLANE SHOULDER HIP MOVEbSHOULDER TILTINGqpWAISTbTORSO-WALLPLANExrSTRETCHcCURVED BEND
bTORSO-FLOORPLANE TWISTINGbzgBODY TILTINGqpHIP JOINTSbLIMB COMBINATIONcLENGTH-1cLENGTH-2cLENGTH-3
cLENGTH-4cLENGTH-5cLENGTH-6cLENGTH-7bFINGERbLOCATION-WALLPLANExkbLOCATION-FLOORPLANExk
bLOCATION HEIGHTcWIDTHcDEPTHcHEAD NECKcTORSOcLIMBS DIGITSboebqqxqbwnbocbvf"),
  (0x1DA9B, "aSIGNWRITING FILL MODIFIER-2cMODIFIER-3cMODIFIER-4cMODIFIER-5cMODIFIER-6"),
  (0x1DAA1, "aSIGNWRITING ROTATION MODIFIER-2cMODIFIER-3cMODIFIER-4cMODIFIER-5cMODIFIER-6cMODIFIER-7
cMODIFIER-8cMODIFIER-9cMODIFIER-10cMODIFIER-11cMODIFIER-12cMODIFIER-13cMODIFIER-14cMODIFIER-15
cMODIFIER-16"),
  (0x1DF00, "astxgtaFENGphzvTRILLdwawkGbtaxgnpzaGbxgtawaKbtaxgnpLzvBELTbxgtaLEZHzvvyrrdzaYzvBELT
dwaENGdzaRzvtgLEGmkvyrrdTzvrrmkvyrrbtavyCLICKzvvyrrbxgtaESHzvpnmzhmkCURLdzaTzvCURLbtasdquxqzvCURL
cSTRETCHED CzvCURLcxgnpzaKbxgtaLzvFISHHOOKdDEZHphzvverrdLzvBELTmkverrdENGzvverrdzaRzvverr
dRzvFISHHOOKmkverrdTESHphzvverrdEZHzvverrdDEZHphzvvyrrdIzvxsmkvyrrdOzvvyrrdTESHphzvvyrrdCzvvyrr
dSzvCURL"),
  (0x1E000, "aodGLAGOLITICtaAZUdBUKYdVEDEdGLAGOLIdDOBROdYESTUdZHIVETE"),
  (0x1E008, "aodGLAGOLITICtaZEMLJAdIZHEdryIZHEdIdDJERVIdKAKOdLJUDIJEdMYSLITEdNASHIdONUdPOKOJIdRITSI
dSLOVOdTVRIDOdUKUdFRITUdHERU"),
  (0x1E01B, "aodGLAGOLITICtaSHTAdTSIdCHRIVIdwrdYERUdYERIdYATI"),
  (0x1E023, "aodGLAGOLITICtaYUdxgYUS"),
  (0x1E026, "aodGLAGOLITICtaYOdIOTATEDxgYUSdBIG YUSdIOTATED BIG YUSdFITA"),
  (0x1E100, "aNYIAKENG PUACHUE HMONGtaMAeTSAeNTAeTAeHAeNAeXAeNKAeCAeLAeSAeZAeNCAeNTSAeKAeDAeupeNRA
eVAeNTXAeTXAeFAeRAeQAeYAeNQAePAeXYAeNPAeDLAeNPLAerceMLAePLAeGAeRRAeAeAAeIeUeOeOOeEeEEeW"),
  (0x1E130, "aNYIAKENG PUACHUE HMONG TONE-BdTONE-MdTONE-JdTONE-VdTONE-SdTONE-GdTONE-DdxaqjvhfTHING
fLOCATIONfANIMALfINVERTEBRATEeXW XWdxxLENGTHENER"),
  (0x1E140, "aNYIAKENG PUACHUE HMONGpgzzeuvezceyleqneqiexeewpepteuf"),
  (0x1E14E, "aNYIAKENG PUACHUE HMONG LOGOGRAM NYAJdnxCA"),
  (0x1E290, "aTOTOtaPAcBAcTAcDAcKAcGAcMAcNAcuecSAcntcYAcWAcJAcHAcRAcLAcIcBREATHY IcIUcBREATHY IUcUcE
cBREATHY EcEOcBREATHY EOcOcAEcBREATHY AEcAbxaRISINGyq"),
  (0x1E2C0, "aWANCHOtaAAcAcBAcCAcDAcGAcYAcvicLAcNAcPAcTAcygcFAcSAcwrcJAcZAcWAcVAcKAcOcAUcRAcMAcsmcHA
cEcIcuecUcLLHAcTSAcTRAcONGcAANGcANGcINGcONcENcAANcupcUENcYIHbyqTUPcTUPNIcKOIcKOINIbpgzzcuvczccylcqn
cqicxecwpcptcuf"),
  (0x1E2FF, "aWANCHO NGUNxa"),
  (0x1E7E0, "aqcxxHHYAcHHYUcHHYIcHHYAAcHHYEEcHHYEcHHYO"),
  (0x1E7E8, "aqcxxGURAGE HHWAcHHWIcHHWEEcHHWE"),
  (0x1E7ED, "aqcxxGURAGE MWIdMWEE"),
  (0x1E7F0, "aqcxxGURAGE QWIdQWEEdQWEdBWIdBWEEdKWIdKWEEdKWEdGWIdGWEEdGWEdFWIdFWEEdPWIdPWEE"),
  (0x1E800, "aMENDE KIKAKUIxxM001 KIdM002 KAdM003 KUdM065 KEEdM095 KEdM076 KOOdM048 KOdM179 KUA
dM004 WIdM005 WAdM006 WUdM126 WEEdM118 WEdM114 WOOdM045 WOdM194 WUIdM143 WEIdM061 WVIdM049 WVA
dM139 WVEdM007 MINdM008 MANdM009 MUNdM059 MENdM094 MONdM154 MUANdM189 MUENdM010 BIdM011 BAdM012 BU
dM150 BEEdM097 BEdM103 BOOdM138 BOdM013 IdM014 AdM015 UdM163 EEdM100 EdM165 OOdM147 OdM137 EI
dM131 INdM135 INdM195 ANdM178 ENdM019 SIdM020 SAdM021 SUdM162 SEEdM116 SEdM136 SOOdM079 SOdM196 SIA
dM025 LIdM026 LAdM027 LUdM084 LEEdM073 LEdM054 LOOdM153 LOdM110tgLEdM016 DIdM017 DAdM018 DUdM089 DEE
dM180 DOOdM181 DOdM022 TIdM023 TAdM024 TUdM091 TEEdM055 TEdM104 TOOdM069 TOdM028 JIdM029 JAdM030 JU
dM157 JEEdM113 JEdM160 JOOdM063 JOdM175tgJOdM031 YIdM032 YAdM033 YUdM109 YEEdM080 YEdM141 YOO
dM121 YOdM034 FIdM035 FAdM036 FUdM078 FEEdM075 FEdM133 FOOdM088 FOdM197 FUAdM101 FANdM037 NIN
dM038 NANdM039uodM117 NENdM169 NONdM176 HIdM041 HAdM186 HUdM040 HEEdM096 HEdM042 HOOdM140 HO
dM083 HEEIdM128 HOOUdM053 HINdM130 HANdM087 HUNdM052 HENdM193 HONdM046 HUANdM090 NGGIdM043 NGGA
dM082 NGGUdM115 NGGEEdM146 NGGEdM156 NGGOOdM120 NGGOdM159 NGGAAdM127 NGGUAdM086tgNGGEdM106tgNGGOO
dM183tgNGGOdM155 GIdM111 GAdM168 GUdM190 GEEdM166 GUEIdM167 GUANdM184 NGENdM057 NGONdM177 NGUAN
dM068 PIdM099 PAdM050 PUdM081 PEEdM051 PEdM102 POOdM066 POdM145 MBIdM062 MBAdM122 MBUdM047 MBEE
dM188 MBEEdM072 MBEdM172 MBOOdM174 MBOdM187 MBUUdM161tgMBEdM105tgMBOOdM142tgMBOdM132 KPIdM092 KPA
dM074 KPUdM044 KPEEdM108 KPEdM112 KPOOdM158 KPOdM124 GBIdM056 GBAdM148 GBUdM093 GBEEdM107 GBE
dM071 GBOOdM070 GBOdM171 RAdM123 NDIdM129 NDAdM125 NDUdM191 NDEEdM119 NDEdM067 NDOOdM064 NDO
dM152 NJAdM192 NJUdM149 NJEEdM134 NJOOdM182 VIdM185 VAdM151 VUdM173 VEEdM085 VEdM144 VOOdM077 VO
dM164 NYINdM058 NYANdM170 NYUNdM098 NYENdM060 NYON"),
  (0x1E8C7, "aMENDE KIKAKUIpguvdzcdyldqndqidxedwpdptdufcodunTEENSeTENSeHUNDREDSeTHOUSANDS
eyeTHOUSANDSeruTHOUSANDSeMILLIONS"),
  (0x1E900, "aADLAMnptaALIFdDAALIdLAAMdMIIMdBAdSINNYIIYHEdPEdBHEdRAdEdFAdIdOdpadYHEdzrduodKAFdYAdU
dJIIMdCHIdHAdQAAFdGAdupdTUdNHAdVAdsmdGBEdZALdKPOdwrbxgtaALIFdDAALIdLAAMdMIIMdBAdSINNYIIYHEdPEdBHEdRA
dEdFAdIdOdpadYHEdzrduodKAFdYAdUdJIIMdCHIdHAdQAAFdGAdupdTUdNHAdVAdsmdGBEdZALdKPOdwrbALIF LENGTHENER
bzqLENGTHENERbGEMINATIONtnbrebogtubGEMINATEogtubumbNASALIZATIONtn"),
  (0x1E950, "aADLAMpgzzcuvczccylcqncqicxecwpcptcuf"),
  (0x1E95E, "aADLAMryqdtncvvtn"),
  (0x1EC71, "aINDIC SIYAQunuvdzcdyldqndqidxedwpdptdufdyedzbdyjdqldqfdSIXTYdwqdpwdugduvrudzcrudylru
dqnrudqirudxerudwprudptrudufruduvykdzcykdylykdqnykdqiykdxeykdwpykdptykdufykdyeykdzbykdyjykdqlykdqfyk
dSIXTYykdwqykdpwykdugykdLAKHdLAKHANcLAKHtncunKARORdKARORANdPREFIXEDuvezceyleqneqiexeewpepteuf
cPLACEHOLDERcqouvvterddylvucRUPEEtncunmiuvezceyeykcmiLAKHtn"),
  (0x1ED01, "aOTTOMAN SIYAQunuvdzcdyldqndqidxedwpdptdufdyedzbdyjdqldqfdSIXTYdwqdpwdugduvrudzcrudylru
dqnrudqirudxerudwprudptrudufruduvykdzcykdylykdqnykdqiykdxeykdwpykdptykdufykdyeykdzbykdyjykdqlykdqfyk
dSIXTYykdwqykdpwykdugykcMARRATANcmiunzceyleqneqiexeewpepteufeyeeqnruexeruezcykeyeykcqouvrdeSIXTH"),
  (0x1EE00, "amptomecBEHcshcDAL"),
  (0x1EE05, "amptozrcZAINcrccTAHczwcKAFcsqctrcuicwmcAINcFEHcSADcQAFcREHcwucTEHcTHEHcsncTHALcDADcZAH
cGHAINcpkBEHduidFEHdQAF"),
  (0x1EE21, "amptoryBEHdsh"),
  (0x1EE24, "amptoryHEH"),
  (0x1EE27, "amptoryrc"),
  (0x1EE29, "amptoryzwdKAFdsqdtrduidwmdAINdFEHdSADdQAF"),
  (0x1EE34, "amptorywudTEHdTHEHdsn"),
  (0x1EE39, "amptoryDAD"),
  (0x1EE3B, "amptoryGHAIN"),
  (0x1EE42, "amptoTAILEDsh"),
  (0x1EE47, "amptoTAILEDrc"),
  (0x1EE49, "amptoTAILEDzw"),
  (0x1EE4B, "amptoTAILEDsq"),
  (0x1EE4D, "amptoTAILEDuidwmdAIN"),
  (0x1EE51, "amptoTAILED SADdQAF"),
  (0x1EE54, "amptoTAILEDwu"),
  (0x1EE57, "amptoTAILEDsn"),
  (0x1EE59, "amptoTAILED DAD"),
  (0x1EE5B, "amptoTAILED GHAIN"),
  (0x1EE5D, "amptoTAILEDpkui"),
  (0x1EE5F, "amptoTAILEDpkQAF"),
  (0x1EE61, "amptoSTRETCHED BEHdsh"),
  (0x1EE64, "amptoSTRETCHED HEH"),
  (0x1EE67, "amptoSTRETCHEDrcdTAHdzwdKAF"),
  (0x1EE6C, "amptoSTRETCHEDtrduidwmdAINdFEHdSADdQAF"),
  (0x1EE74, "amptoSTRETCHEDwudTEHdTHEHdsn"),
  (0x1EE79, "amptoSTRETCHED DADdZAHdGHAINdpkBEH"),
  (0x1EE7E, "amptoSTRETCHEDpkFEH"),
  (0x1EE80, "amptoLOOPEDmedBEHdshdDALdHEHdzrdZAINdrcdTAHdzw"),
  (0x1EE8B, "amptoLOOPEDsqdtrduidwmdAINdFEHdSADdQAFdREHdwudTEHdTHEHdsndTHALdDADdZAHdGHAIN"),
  (0x1EEA1, "amptopoBEHdshdDAL"),
  (0x1EEA5, "amptopozrdZAINdrcdTAHdzw"),
  (0x1EEAB, "amptoposqdtrduidwmdAINdFEHdSADdQAFdREHdwudTEHdTHEHdsndTHALdDADdZAHdGHAIN"),
  (0x1EEF0, "amptouxtrzvrczvTATWEELdrczvDAL"),
  (0x1F000, "aMAHJONG TILEpsWINDcxjWINDczsWINDcujWINDcRED DRAGONcGREEN DRAGONczuDRAGONcuvOFnuczcOFnu
cylOFnucqnOFnucqiOFnucxeOFnucwpOFnucptOFnucufOFnucuvOF BAMBOOSczcOF BAMBOOScylOF BAMBOOS
cqnOF BAMBOOScqiOF BAMBOOScxeOF BAMBOOScwpOF BAMBOOScptOF BAMBOOScufOF BAMBOOScuvOFnyczcOFnycylOFny
cqnOFnycqiOFnycxeOFnycwpOFnycptOFnycufOFnycPLUMcORCHIDcBAMBOOcCHRYSANTHEMUMcSPRINGcSUMMERcAUTUMN
cWINTERcJOKERcBACK"),
  (0x1F030, "aDOMINO TILErsBACKcHORIZONTAL-00-00cHORIZONTAL-00-01cHORIZONTAL-00-02cHORIZONTAL-00-03
cHORIZONTAL-00-04cHORIZONTAL-00-05cHORIZONTAL-00-06cHORIZONTAL-01-00cHORIZONTAL-01-01
cHORIZONTAL-01-02cHORIZONTAL-01-03cHORIZONTAL-01-04cHORIZONTAL-01-05cHORIZONTAL-01-06
cHORIZONTAL-02-00cHORIZONTAL-02-01cHORIZONTAL-02-02cHORIZONTAL-02-03cHORIZONTAL-02-04
cHORIZONTAL-02-05cHORIZONTAL-02-06cHORIZONTAL-03-00cHORIZONTAL-03-01cHORIZONTAL-03-02
cHORIZONTAL-03-03cHORIZONTAL-03-04cHORIZONTAL-03-05cHORIZONTAL-03-06cHORIZONTAL-04-00
cHORIZONTAL-04-01cHORIZONTAL-04-02cHORIZONTAL-04-03cHORIZONTAL-04-04cHORIZONTAL-04-05
cHORIZONTAL-04-06cHORIZONTAL-05-00cHORIZONTAL-05-01cHORIZONTAL-05-02cHORIZONTAL-05-03
cHORIZONTAL-05-04cHORIZONTAL-05-05cHORIZONTAL-05-06cHORIZONTAL-06-00cHORIZONTAL-06-01
cHORIZONTAL-06-02cHORIZONTAL-06-03cHORIZONTAL-06-04cHORIZONTAL-06-05cHORIZONTAL-06-06czlBACK
cVERTICAL-00-00cVERTICAL-00-01cVERTICAL-00-02cVERTICAL-00-03cVERTICAL-00-04cVERTICAL-00-05
cVERTICAL-00-06cVERTICAL-01-00cVERTICAL-01-01cVERTICAL-01-02cVERTICAL-01-03cVERTICAL-01-04
cVERTICAL-01-05cVERTICAL-01-06cVERTICAL-02-00cVERTICAL-02-01cVERTICAL-02-02cVERTICAL-02-03
cVERTICAL-02-04cVERTICAL-02-05cVERTICAL-02-06cVERTICAL-03-00cVERTICAL-03-01cVERTICAL-03-02
cVERTICAL-03-03cVERTICAL-03-04cVERTICAL-03-05cVERTICAL-03-06cVERTICAL-04-00cVERTICAL-04-01
cVERTICAL-04-02cVERTICAL-04-03cVERTICAL-04-04cVERTICAL-04-05cVERTICAL-04-06cVERTICAL-05-00
cVERTICAL-05-01cVERTICAL-05-02cVERTICAL-05-03cVERTICAL-05-04cVERTICAL-05-05cVERTICAL-05-06
cVERTICAL-06-00cVERTICAL-06-01cVERTICAL-06-02cVERTICAL-06-03cVERTICAL-06-04cVERTICAL-06-05
cVERTICAL-06-06"),
  (0x1F0A0, "aPLAYING CARD BACKcACE OF SPADESczcOF SPADEScylOF SPADEScqnOF SPADEScqiOF SPADES
cxeOF SPADEScwpOF SPADEScptOF SPADEScufOF SPADEScyeOF SPADEScJACK OF SPADEScsoOF SPADES
cQUEEN OF SPADEScKING OF SPADES"),
  (0x1F0B1, "aPLAYING CARD ACE OFrmczcOFrmcylOFrmcqnOFrmcqiOFrmcxeOFrmcwpOFrmcptOFrmcufOFrmcyeOFrm
cJACK OFrmcsoOFrmcQUEEN OFrmcKING OFrmcRED JOKER"),
  (0x1F0C1, "aPLAYING CARD ACE OFpfczcOFpfcylOFpfcqnOFpfcqiOFpfcxeOFpfcwpOFpfcptOFpfcufOFpfcyeOFpf
cJACK OFpfcsoOFpfcQUEEN OFpfcKING OFpfcngJOKER"),
  (0x1F0D1, "aPLAYING CARD ACE OF CLUBSczcOF CLUBScylOF CLUBScqnOF CLUBScqiOF CLUBScxeOF CLUBS
cwpOF CLUBScptOF CLUBScufOF CLUBScyeOF CLUBScJACK OF CLUBScsoOF CLUBScQUEEN OF CLUBScKING OF CLUBS
czuJOKERcFOOLcTRUMP-1cTRUMP-2cTRUMP-3cTRUMP-4cTRUMP-5cTRUMP-6cTRUMP-7cTRUMP-8cTRUMP-9cTRUMP-10
cTRUMP-11cTRUMP-12cTRUMP-13cTRUMP-14cTRUMP-15cTRUMP-16cTRUMP-17cTRUMP-18cTRUMP-19cTRUMP-20
cTRUMP-21"),
  (0x1F100, "apgzzqqxqcoebuvoebzcoebyloebqnoebqioebxeoebwpoebptoebufoeaDINGBATnxwjpgzzbucnxwjpgzz
anxzzzvSLASHbmmmtbDOLLARxazvOVERLAID BACKSLASHaPARENTHESIZEDstnptaAeBeCeDeEeFeGeHeIeJeKeLeMeNeOePeQ
eReSeTeUeVeWeXeYeZaytwvBRACKETEDstnptaSanxITALICstnptaCfRbCDbWZaCOPYLEFTxyaxnstnptaAeBeCeDeEeFeGeHeI
eJeKeLeMeNeOePeQeReSeTeUeVeWeXeYeZbHVbMVbSDbSSbPPVbWCaucnxstnptaAfBfCfDfEfFfGfHfIfJfKfLfMfNfOfPfQfR
fSfTfUfVfWfXfYfZavxMCxabMDxabMRxaanxCCbCzvOVERLAID BACKSLASHbHUMAN FIGUREaucxnstnptaAfBfCfDfEfFfGfH
fIfJfKfLfMfNfOfPfQfRfSfTfUfVfWfXfYfZaokucxnstnptaPaucxnICcPAcSAcABcWCaxmDJaxnCLbCOOLbFREEbIDbNEWbNG
bOKbSOSbUPzvqdtnbVSbylDbSECOND SCREENbzcKbqnKbptKbqiPOINTuvbwpPOINTuvbTWENTY-TWO POINTzcbSIXTY P
buvruzbPbstxgtaDbHCbHDRbHI-RESbLOSSLESSbSHVbUHDbVODaMASK WORKxy"),
  (0x1F1E6, "aREGIONAL INDICATORxytaAeBeCeDeEeFeGeHeIeJeKeLeMeNeOePeQeReSeTeUeVeWeXeYeZ
axmHIRAGANA HOKAaxnslKOKOcSA"),
  (0x1F210, "axnCJK UNIFIED IDEOGRAPH-624BdIDEOGRAPH-5B57dIDEOGRAPH-53CCbslDE
bCJK UNIFIED IDEOGRAPH-4E8CdIDEOGRAPH-591AdIDEOGRAPH-89E3dIDEOGRAPH-5929dIDEOGRAPH-4EA4
dIDEOGRAPH-6620dIDEOGRAPH-7121dIDEOGRAPH-6599dIDEOGRAPH-524DdIDEOGRAPH-5F8CdIDEOGRAPH-518D
dIDEOGRAPH-65B0dIDEOGRAPH-521DdIDEOGRAPH-7D42dIDEOGRAPH-751FdIDEOGRAPH-8CA9dIDEOGRAPH-58F0
dIDEOGRAPH-5439dIDEOGRAPH-6F14dIDEOGRAPH-6295dIDEOGRAPH-6355dIDEOGRAPH-4E00dIDEOGRAPH-4E09
dIDEOGRAPH-904AdIDEOGRAPH-5DE6dIDEOGRAPH-4E2DdIDEOGRAPH-53F3dIDEOGRAPH-6307dIDEOGRAPH-8D70
dIDEOGRAPH-6253dIDEOGRAPH-7981dIDEOGRAPH-7A7AdIDEOGRAPH-5408dIDEOGRAPH-6E80dIDEOGRAPH-6709
dIDEOGRAPH-6708dIDEOGRAPH-7533dIDEOGRAPH-5272dIDEOGRAPH-55B6dIDEOGRAPH-914D"),
  (0x1F240, "aytwvBRACKETED CJK UNIFIED IDEOGRAPH-672CfIDEOGRAPH-4E09fIDEOGRAPH-4E8CfIDEOGRAPH-5B89
fIDEOGRAPH-70B9fIDEOGRAPH-6253fIDEOGRAPH-76D7fIDEOGRAPH-52DDfIDEOGRAPH-6557"),
  (0x1F250, "anxIDEOGRAPH ADVANTAGEcACCEPT"),
  (0x1F260, "aROUNDEDxyqjFUdLUdSHOUdXIdSHUANGXIdCAI"),
  (0x1F300, "aCYCLONEaFOGGYaobUMBRELLAaNIGHTzvSTARSaSUNRISEvaMOUNTAINSaSUNRISEaCITYSCAPE AT DUSK
aSUNSETvaBUILDINGSaRAINBOWaBRIDGE AT NIGHTaWATER WAVEaVOLCANOaMILKY WAYaEARTH GLOBE EUROPE-AFRICA
cAMERICAScASIA-AUSTRALIAaGLOBEzvMERIDIANSaNEWtvxyaWAXING CRESCENTtvxyaFIRSTvttvxyaWAXING GIBBOUStvxy
aqqtvxyaWANING GIBBOUStvxyaLASTvttvxyaWANING CRESCENTtvxyaCRESCENTtvaNEWtvzvqeaFIRSTvttvzvqe
aLASTvttvzvqeaqqtvzvqeaSUNzvqeaGLOWINGxpaSHOOTINGxpaTHERMOMETERangDROPLETazuSUNczvxgCLOUD
cBEHIND CLOUDezvRAINaCLOUDzvRAINcSNOWcLIGHTNINGcTORNADOaFOGaWIND BLOWINGqeaHOT DOGaTACOaBURRITO
aCHESTNUTaSEEDLINGaEVERGREEN TREEaDECIDUOUS TREEaPALM TREEaCACTUSaHOT PEPPERaTULIPaCHERRY BLOSSOM
aROSEaHIBISCUSaSUNFLOWERaBLOSSOMaEAR OF MAIZEcRICEaHERBaqnLEAF CLOVERaMAPLE LEAFaFALLEN LEAF
aLEAF FLUTTERING IN WINDaMUSHROOMaTOMATOaAUBERGINEaGRAPESaMELONaWATERMELONaTANGERINEaLEMONaBANANA
aPINEAPPLEaRED APPLEaGREEN APPLEaPEARaPEACHaCHERRIESaSTRAWBERRYaHAMBURGERaSLICE OF PIZZA
aMEAT ON BONEaPOULTRY LEGaRICE CRACKERbBALLaCOOKED RICEaCURRYmkRICEaSTEAMING BOWLaSPAGHETTIaBREAD
aFRENCH FRIESaROASTED SWEET POTATOaDANGOaODENaSUSHIaFRIED SHRIMPaFISH CAKEzvSWIRL DESIGN
aSOFT ICE CREAMaSHAVED ICEaICE CREAMaDOUGHNUTaCOOKIEaCHOCOLATEmzaCANDYaLOLLIPOPaCUSTARDaHONEY POT
aSHORTCAKEaBENTO BOXaPOT OF FOODaCOOKINGaFORKmkKNIFEaTEACUP WITHOUT HANDLEaSAKE BOTTLEmkCUP
aWINE GLASSaCOCKTAIL GLASSaTROPICAL DRINKaBEER MUGaCLINKING BEER MUGSaBABY BOTTLEaFORKmkKNIFEzvPLATE
aBOTTLEzvPOPPING CORKaPOPCORNaRIBBONaWRAPPED PRESENTaBIRTHDAY CAKEaJACK-O-LANTERNaCHRISTMAS TREE
aFATHER CHRISTMASaFIREWORKSaFIREWORK SPARKLERaBALLOONaPARTY POPPERaCONFETTI BALLaTANABATA TREE
aokFLAGSaPINE DECORATIONaJAPANESE DOLLSaCARP STREAMERaWIND CHIMEatvVIEWING CEREMONYaSCHOOL SATCHEL
aGRADUATION CAParlzvTIP ONyhsuaBOUQUET OF FLOWERSaMILITARY MEDALaREMINDER RIBBONaubKEYBOARDzvJACKS
aSTUDIO MICROPHONEaLEVEL SLIDERaCONTROL KNOBSaBEAMED ASCENDINGubNOTESbDESCENDINGubNOTESaFILM FRAMES
aADMISSION TICKETSaCAROUSEL HORSEaFERRIS WHEELaROLLER COASTERaFISHING POLEmkFISHaMICROPHONE
aMOVIE CAMERAaCINEMAaHEADPHONEaARTIST PALETTEaysHATaCIRCUS TENTaTICKETaCLAPPER BOARDaPERFORMING ARTS
aVIDEO GAMEaDIRECT HITaSLOT MACHINEaBILLIARDSaGAME DIEaBOWLINGaFLOWER PLAYING CARDSaubNOTEatzubNOTES
aSAXOPHONEaGUITARaubKEYBOARDaTRUMPETaVIOLINaubSCOREaRUNNING SHIRTzvSASHaTENNIS RACQUETmkBALL
aSKImkSKI BOOTaBASKETBALLmkHOOPaCHEQUERED FLAGaSNOWBOARDERaRUNNERaSURFERaSPORTS MEDALaTROPHY
aHORSE RACINGaAMERICAN FOOTBALLaRUGBY FOOTBALLaSWIMMERaWEIGHT LIFTERaGOLFERaRACING MOTORCYCLEbCAR
aCRICKET BATmkBALLaVOLLEYBALLaFIELD HOCKEY STICKmkBALLaICE HOCKEY STICKmkPUCK
aTABLE TENNIS PADDLEmkBALLaSNOW CAPPED MOUNTAINaCAMPINGaBEACHzvUMBRELLAaBUILDING CONSTRUCTION
aHOUSE BUILDINGSaCITYSCAPEaDERELICT HOUSE BUILDINGaCLASSICAL BUILDINGaDESERTbISLANDaNATIONAL PARK
aSTADIUMaHOUSE BUILDINGbzvGARDENaOFFICE BUILDINGaJAPANESE POST OFFICEaEUROPEAN POST OFFICEaHOSPITAL
aBANKaAUTOMATED TELLER MACHINEaHOTELaLOVE HOTELaCONVENIENCE STOREaSCHOOLaDEPARTMENT STOREaFACTORY
aIZAKAYA LANTERNaJAPANESE CASTLEaEUROPEAN CASTLEazuPENNANTangPENNANTaWAVINGzuFLAGbngFLAGaROSETTE
angROSETTEaLABELaBADMINTON RACQUETmkSHUTTLECOCKaBOWmkmtaAMPHORAaEMOJItuFITZPATRICK TYPE-1-2dTYPE-3
dTYPE-4dTYPE-5dTYPE-6aRATaMOUSEaOXaWATER BUFFALOaCOWaTIGERaLEOPARDaRABBITaCATaDRAGONaCROCODILEaWHALE
aSNAILaSNAKEaHORSEaRAMaGOATaSHEEPaMONKEYaROOSTERaCHICKENaDOGaPIGaBOARaELEPHANTaOCTOPUSaSPIRALwvaBUG
aANTaHONEYBEEaLADY BEETLEaFISHaTROPICAL FISHaBLOWFISHaTURTLEaHATCHING CHICKaBABY CHICK
aFRONT-FACING BABY CHICKaBIRDaPENGUINaKOALAaPOODLEaDROMEDARY CAMELaBACTRIAN CAMELaDOLPHINaMOUSEqe
aCOWqeaTIGERqeaRABBITqeaCATqeaDRAGONqeaSPOUTING WHALEaHORSEqeaMONKEYqeaDOGqeaPIGqeaFROGqeaHAMSTERqe
aWOLFqeaBEARqeaPANDAqeaPIG NOSEaPAW PRINTSaCHIPMUNKaEYESaEYEaEARaNOSEatwaTONGUEazuUPvlBACKHANDrx
bppvlBACKHANDrxbsuvlBACKHANDrxbwbvlBACKHANDrxaFISTEDrfxaaWAVINGrfxaaOKrfxaaTHUMBS UPxabppxa
aCLAPPING HANDSxaauwHANDSxaaCROWNaWOMANS HATaEYEGLASSESaNECKTIEaT-SHIRTaJEANSaDRESSaKIMONOaBIKINI
aWOMANS CLOTHESaPURSEaHANDBAGaPOUCHaMANS SHOEaATHLETIC SHOEaHIGH-HEELED SHOEaWOMANS SANDALbBOOTS
aFOOTPRINTSaBUST IN SILHOUETTEaBUSTS IN SILHOUETTEaBOYaGIRLaMANaWOMANaFAMILY
aMANmkWOMAN HOLDING HANDSazcMEN HOLDING HANDSbWOMEN HOLDING HANDSaPOLICE OFFICERaWOMANzvBUNNY EARS
aBRIDEzvVEILavhzvBLOND HAIRaMANzvGUA PI MAOcTURBANaOLDER MANbWOMANaBABYaCONSTRUCTION WORKERaPRINCESS
aJAPANESE OGREbGOBLINaGHOSTaBABY ANGELaEXTRATERRESTRIAL ALIENaALIEN MONSTERaIMPaSKULL
aINFORMATION DESKvhaGUARDSMANaDANCERaLIPSTICKaNAIL POLISHaqeMASSAGEaHAIRCUTaBARBER POLEaSYRINGEaPILL
aKISStnaLOVEtaaweaGEM STONEaKISSaBOUQUETaCOUPLEzvrlaWEDDINGaBEATINGrlaBROKENrlazcrmaSPARKLINGrl
aGROWINGrlarlzvmtaBLUErlaGREENrlaYELLOWrlaPURPLErlarlzvRIBBONaREVOLVINGrmarlDECORATION
apeSHAPEzvApjrzaELECTRICtcBULBaANGERxyaBOMBaSLEEPINGxyaCOLLISIONxyaSPLASHING SWEATxyaDROPLETaotxy
aPILE OF POOaFLEXED BICEPSaDIZZYxyaSPEECH BALLOONaTHOUGHT BALLOONazuFLOWERaruPOINTSxyaMONEY BAG
aCURRENCY EXCHANGEarnDOLLARxaaCREDIT CARDaBANKNOTEzvYENxacDOLLARxacEUROxacPOUNDxaaMONEYzvWINGS
aCHARTzvziTRENDmkYENxaaSEATaPERSONAL COMPUTERaBRIEFCASEaMINIDISCaFLOPPY DISKaOPTICAL DISCaDVD
aFILE FOLDERauwFILE FOLDERaPAGEzvCURLbFACING UPaCALENDARaTEAR-OFF CALENDARaCARDrxaCHARTzvziTREND
cprTRENDamzCHARTaCLIPBOARDaPUSHPINaROUND PUSHPINaPAPERCLIPaxrRULERaywRULERaBOOKMARK TABSaLEDGER
aNOTEBOOKbzvDECORATIVE COVERaobBOOKauwBOOKaGREEN BOOKaBLUE BOOKaORANGE BOOKaBOOKSaNAME BADGEaSCROLL
aMEMOaydRECEIVERaPAGERaFAX MACHINEaSATELLITE ANTENNAaPUBLIC ADDRESS LOUDSPEAKERaCHEERING MEGAPHONE
aOUTBOX TRAYaINBOX TRAYaPACKAGEaE-MAILxyaINCOMING ENVELOPEaENVELOPEzvprmtmbaobMAILBOXzvLOWERED FLAG
dvxFLAGauwMAILBOXzvvxFLAGdLOWERED FLAGaPOSTBOXaPOSTALrtaNEWSPAPERaMOBILE PHONEczvwdmtATsu
aVIBRATION MODEaMOBILE PHONE OFFaNO MOBILE PHONESaANTENNAzvBARSaCAMERAbzvFLASHaVIDEO CAMERA
aTELEVISIONaRADIOaVIDEOCASSETTEaFILM PROJECTORaPORTABLE STEREOaPRAYER BEADSaTWISTEDwdmv
aoawdmksxuwnwmvhzvnxuvvcbprmkziuwnwmvammprmkziuwnwmvathBRIGHTNESSxyaroBRIGHTNESSxy
aSPEAKERzvCANCELLATIONxsaSPEAKERbzvuvSOUND WAVEcylSOUND WAVESaBATTERYaELECTRIC PLUG
asvMAGNIFYING GLASSawcMAGNIFYING GLASSaLOCKzvINK PENaobLOCKzvKEYaKEYaLOCKauwLOCKaBELL
bzvCANCELLATIONxsaBOOKMARKaLINKxyaRADIO BUTTONaBACKzvsxmtmbaENDzvsxmtmbaONzvqdtnzvsuwbmtmb
aSOONzvwdmtmbayszvzimtmbaNOuvUNDER EIGHTEENxyaKEYCAPyeaINPUTxyqjstnpLETTERSexgLETTERSdNUMBERS
dSYMBOLSdstLETTERSaFIREaELECTRIC TORCHaWRENCHaHAMMERaNUTmkBOLTaHOCHOaPISTOLaMICROSCOPEaTELESCOPE
aCRYSTAL BALLaxevkxpzvtspjaJAPANESExyqjBEGINNERaTRIDENT EMBLEMangxmBUTTONazuxmBUTTONassREDnwbBLUEnw
bORANGEpebBLUEpeaxgORANGEpebBLUEpeazfREDyuapqREDyuazfxgREDyuapqxgREDyuatiwbwszunwazgwbwszunw
anxojPOMMEEaojPOMMEEzvHALF-CIRCLEnbbPOMMEEaNOTCHEDsuSEMICIRCLEzvylplbwbSEMICIRCLEzvylpl
axyqjMARKS CHAPTERazustojarnstojaCELTICojaOMxyaDOVE OF PEACEaKAABAaMOSQUEaSYNAGOGUE
aMENORAHzvufBRANCHESaBOWL OF HYGIEIAaCLOCKqeuvOCLOCKczcOCLOCKcylOCLOCKcqnOCLOCKcqiOCLOCKcxeOCLOCK
cwpOCLOCKcptOCLOCKcufOCLOCKcyeOCLOCKcELEVEN OCLOCKcTWELVE OCLOCKcONE-THIRTYcTWO-THIRTYcTHREE-THIRTY
cFOUR-THIRTYcFIVE-THIRTYcSIX-THIRTYcSEVEN-THIRTYcEIGHT-THIRTYcNINE-THIRTYcTEN-THIRTYcELEVEN-THIRTY
cTWELVE-THIRTYawbSPEAKERczvuvSOUND WAVEdylSOUND WAVESaBULLHORNbzvSOUND WAVESaRINGING BELLaBOOK
aCANDLEaMANTELPIECE CLOCKangSKULLmkCROSSBONESaNO PIRACYaHOLEaMAN IN BUSINESS SUIT LEVITATING
aSLEUTH OR SPYaDARK SUNGLASSESaSPIDERbWEBaJOYSTICKaMAN DANCINGasurfydRECEIVERaydRECEIVERzvPAGE
awbrfydRECEIVERazuTOUCHTONEydangTOUCHTONEydaydONysOF MODEMaCLAMSHELL MOBILE PHONEaBACK OF ENVELOPE
aSTAMPED ENVELOPEaENVELOPEzvLIGHTNINGaFLYING ENVELOPEaPENvaSTAMPED ENVELOPEaLINKED PAPERCLIPS
angPUSHPINatisuPENCILcBALLPOINT PENcFOUNTAIN PENcPAINTBRUSHcCRAYONasuWRITINGrfazaOKrfxa
avxrfzvqhSPLAYEDawavxrfzvqhSPLAYEDbTHUMBS UPxacppxabVICTORYrfbrfzvtsFINGER EXTENDED
avxrfzvPARTnetsmkweqhazuppvlsurfrxaSIDEWAYSzusuvlrxcwbvlrxbngsuvlrxcwbvlrxangsuvlBACKHANDrx
bwbvlBACKHANDrxaSIDEWAYSzuUPvlrxcppvlrxbngUPvlrxcppvlrxangUPvlBACKHANDrxbppvlBACKHANDrxbrl
aDESKTOP COMPUTERaKEYBOARDmkMOUSEaylNETWORKED COMPUTERSaPRINTERaPOCKET CALCULATOR
angHARDwvFLOPPY DISKazuHARDwvFLOPPY DISKaSOFTwvFLOPPY DISKaTAPE CARTRIDGEaWIRED KEYBOARD
auvBUTTON MOUSEazcBUTTON MOUSEaylBUTTON MOUSEaTRACKBALLausPERSONAL COMPUTERaHARD DISKaSCREEN
aPRINTER ICONaFAX ICONaOPTICAL DISC ICONaDOCUMENTzvTEXTdmkPICTUREcPICTUREaFRAMEzvPICTUREcTILEScAN X
angFOLDERaFOLDERauwFOLDERaCARDrxDIVIDERSbFILE BOXaFILE CABINETaEMPTY NOTEcPAGEcPADaNOTEbPAGEbPAD
aEMPTY DOCUMENTbPAGEbPAGESaDOCUMENTaPAGEaPAGESaWASTEBASKETaSPIRAL NOTE PADbCALENDAR PAD
aDESKTOP WINDOWaMINIMIZEaMAXIMIZEaOVERLAPaoawbmksuSEMICIRCLEmvaCANCELLATION XaINCREASE FONT SIZExy
aDECREASE FONT SIZExyaCOMPRESSIONausKEYaROLLED-UP NEWSPAPERaPAGEzvnxTEXTaSTOCK CHARTaDAGGER KNIFE
aLIPSaSPEAKING HEAD IN SILHOUETTEaylRAYSmbcnbcsucwbasuSPEECH BUBBLEawbSPEECH BUBBLEazcSPEECH BUBBLES
aylSPEECH BUBBLESasuTHOUGHT BUBBLEawbTHOUGHT BUBBLEasuANGER BUBBLEawbANGER BUBBLEaMOOD BUBBLE
aLIGHTNING MOOD BUBBLEbMOODaBALLOT BOXzvBALLOTbwkXbBOXzvwkXbniwkXbBOXzvniwkXatcCHECKtn
aBALLOT BOXzvniCHECKaWORLD MAPaMOUNT FUJIaTOKYO TOWERaSTATUE OF LIBERTYaSILHOUETTE OF JAPANaMOYAI
aGRINNINGqeczvxhEYESaqezvTEARS OF JOYaxhqezvuwtwfmkxhEYESgCOLD SWEATgTIGHTLY-CLOSED EYESdHALOdHORNS
aWINKINGqeaxhqezvxhEYESaqeSAVOURING DELICIOUS FOODaRELIEVEDqeaxhqezvHEART-SHAPED EYESdSUNGLASSES
aSMIRKINGqeaudqeaEXPRESSIONLESSqeaUNAMUSEDqeaqezvCOLD SWEATaPENSIVEqeaCONFUSEDqeaCONFOUNDEDqe
aKISSINGqeaqeTHROWING A KISSaKISSINGqezvxhEYESdobEYESaqezvSTUCK-OUT TONGUEemkWINKING EYE
fTIGHTLY-CLOSED EYESaDISAPPOINTEDqeaWORRIEDqeaANGRYqeaPOUTINGqeaCRYINGqeaPERSEVERINGqe
aqezvLOOK OF TRIUMPHaDISAPPOINTED BUT RELIEVEDqeaFROWNINGqezvuwtwaANGUISHEDqeaFEARFULqeaWEARYqe
aSLEEPYqeaTIREDqeaGRIMACINGqeaLOUDLY CRYINGqeaqezvuwtwaHUSHEDqeaqezvuwtwmkCOLD SWEAT
bSCREAMING IN FEARaASTONISHEDqeaFLUSHEDqeaSLEEPINGqeaDIZZYqeaqeWITHOUTtwbzvMEDICAL MASK
aGRINNING CATqezvxhEYESaCATqezvTEARS OF JOYaxhCATqezvuwtweHEART-SHAPED EYESaCATqezvWRY SMILE
aKISSING CATqezvobEYESaPOUTING CATqeaCRYING CATqeaWEARY CATqeaSLIGHTLY FROWNINGqebxhqeaUPSIDE-DOWNqe
aqezvROLLING EYEScNO GOOD GESTUREcOK GESTUREavhBOWING DEEPLYaSEE-NO-EVIL MONKEYaHEAR-NO-EVIL MONKEY
aSPEAK-NO-EVIL MONKEYaHAPPYvhRAISINGuvrfavhRAISING BOTH HANDS IN CELEBRATIONbFROWNINGbzvPOUTINGqe
cFOLDED HANDSaujzsvlLEAFaxjzsvlLEAFaujpsvlLEAFaxjpsvlLEAFazaujzsvlLEAFbxjzsvlLEAFbujpsvlLEAF
bxjpsvlLEAFaujzsvlVINE LEAFaxjzsvlVINE LEAFaujpsvlVINE LEAFaxjpsvlVINE LEAFarnujzsvlVINE LEAF
bxjzsvlVINE LEAFbujpsvlVINE LEAFbxjpsvlVINE LEAFaujzsvlBUDaxjzsvlBUDaujpsvlBUDaxjpsvlBUDarnujzsvlBUD
bxjzsvlBUDbujpsvlBUDbxjpsvlBUDaHOLLOW QUILTxmuzeINngxmaSOLID QUILTxmuzeINngxmasxROCKETaziROCKET
awdROCKETaprROCKETawktbETuzarnwktbETuzatbuwETuzarntbuwETuzbAMPERSANDuzaSWASH AMPERSANDuz
awjrnpnzaoevwtnuzdoevwtnuzcthpnoevwtnuzarnINTERROBANGuzawjINTERROBANGuzarnwjINTERROBANGuzazmrnxi
cvzxiaCHECKER BOARDavzCHECKER BOARDaROCKETaHELICOPTERaSTEAM LOCOMOTIVEaRAILWAY CARaHIGH-SPEED TRAIN
czvBULLET NOSEaTRAINaMETROatcRAILaSTATIONaTRAMbCARaBUSaONCOMING BUSaTROLLEYBUSaBUSxqaMINIBUS
aAMBULANCEaFIRE ENGINEaPOLICE CARaONCOMING POLICE CARaTAXIaONCOMING TAXIaAUTOMOBILE
aONCOMING AUTOMOBILEaRECREATIONAL VEHICLEaDELIVERY TRUCKaARTICULATED LORRYaTRACTORaMONORAIL
aMOUNTAIN RAILWAYaSUSPENSION RAILWAYaMOUNTAIN CABLEWAYaAERIAL TRAMWAYaSHIPaROWBOATaSPEEDBOAT
arsTRAFFICtcazlTRAFFICtcaCONSTRUCTIONxaaPOLICE CARS REVOLVINGtcaywFLAG ON POSTaDOORaNO ENTRYxa
aSMOKINGxyaNO SMOKINGxyaPUT LITTER IN ITS PLACExyaDOukLITTERxyaPOTABLE WATERxyaNON-POTABLE WATERxy
aBICYCLEaNO BICYCLESaBICYCLISTaMOUNTAIN BICYCLISTaPEDESTRIANaNO PEDESTRIANSaCHILDRENomaMENSxy
aWOMENSxyaRESTROOMaBABYxyaTOILETaWATER CLOSETaSHOWERaBATHaBATHTUBaPASSPORT CONTROLaCUSTOMS
aBAGGAGE CLAIMasuLUGGAGEayuzvROUNDED CORNERSaPROHIBITEDxaanxINFORMATION SOURCEaBOYSxyaGIRLSxy
aCOUCHmkLAMPaSLEEPING ACCOMMODATIONaSHOPPING BAGSaBELLHOP BELLaBEDaPLACE OF WORSHIPaOCTAGONALxa
aSHOPPING TROLLEYaSTUPAaPAGODAaHINDU TEMPLEaHUTaELEVATOR"),
  (0x1F6DD, "aPLAYGROUND SLIDEaWHEELaweBUOYaHAMMERmkWRENCHaSHIELDaOIL DRUMaMOTORWAYaRAILWAY TRACK
aMOTOR BOATazfMILITARY AIRPLANEbAIRPLANEbxgAIRPLANEaxgAIRPLANEaNORTHEAST-POINTING AIRPLANE
aAIRPLANE DEPARTUREbARRIVING"),
  (0x1F6F0, "aSATELLITEaONCOMING FIRE ENGINEaDIESEL LOCOMOTIVEaPASSENGER SHIPaSCOOTERaMOTOR SCOOTER
aCANOEaSLEDaFLYING SAUCERaSKATEBOARDaAUTO RICKSHAWaPICKUP TRUCKaROLLER SKATE"),
  (0x1F700, "aALCHEMICALxyqjQUINTESSENCEdAIRdFIREdEARTHdWATERdAQUAFORTISdAQUA REGIAeREGIA-2eVITAE
eVITAE-2dVINEGARdVINEGAR-2dVINEGAR-3dSULFURdPHILOSOPHERS SULFURdngSULFURdMERCURY SUBLIMATE
eSUBLIMATE-2eSUBLIMATE-3dCINNABARdSALTdNITREdVITRIOLdVITRIOL-2dROCK SALTeSALT-2dGOLDdSILVERdIRON ORE
eORE-2dCROCUS OF IRONdREGULUS OF IRONdCOPPER OREdIRON-COPPER OREdSUBLIMATE OF COPPER
dCROCUS OF COPPERfCOPPER-2dCOPPER ANTIMONIATEdSALT OF COPPER ANTIMONIATEdSUBLIMATE OF SALT OF COPPER
dVERDIGRISdTIN OREdLEAD OREdANTIMONY OREdSUBLIMATE OF ANTIMONYdSALT OF ANTIMONY
dSUBLIMATE OF SALT OF ANTIMONYdVINEGAR OF ANTIMONYdREGULUS OF ANTIMONYfANTIMONY-2dREGULUSdREGULUS-2
dREGULUS-3dREGULUS-4dALKALIdALKALI-2dMARCASITEdSAL-AMMONIACdARSENICdREALGARdREALGAR-2dAURIPIGMENT
dBISMUTH OREdTARTARdTARTAR-2dQUICK LIMEdBORAXdBORAX-2dBORAX-3dALUMdOILdSPIRITdTINCTUREdGUMdWAX
dPOWDERdCALXdTUTTYdCAPUT MORTUUMdSCEPTER OF JOVEdCADUCEUSdTRIDENTdSTARRED TRIDENTdLODESTONEdSOAP
dURINEdHORSE DUNGdASHESdPOT ASHESdBRICKdPOWDERED BRICKdAMALGAMdSTRATUM SUPER STRATUMfSTRATUM-2
dSUBLIMATIONdPRECIPITATEdDISTILLdDISSOLVEdDISSOLVE-2dPURIFYdPUTREFACTIONdCRUCIBLEdCRUCIBLE-2
dCRUCIBLE-3dCRUCIBLE-4dCRUCIBLE-5dALEMBICdBATH OF MARYfVAPOURSdRETORTdHOURdNIGHTdDAY-NIGHTdMONTH
drdDRAMeOUNCE"),
  (0x1F780, "angsvISOSCELESwbyubzfISOSCELESwbyubwcISOSCELESwbyubpqISOSCELESwbyubSLIGHTLYxgnw
atqnizunwanizunwarnzunwazmrnzunwaEXTREMELYrnzunwazunwCONTAININGngxgnwaROUND TARGETangTINYxm
bSLIGHTLYxgxmatczuxmatqzuxmanizuxmarnzuxmazmrnzuxmaEXTREMELYrnzuxmazuxmCONTAININGngzmxgxmetqxm
axmTARGETangTINYpebzmxgpebtqxgpeazupeCONTAININGngzmxgpeetqpeapeTARGETangTINYtjbzmxgtjbtqxgtj
azutjCONTAININGngxgtjaTHINqyojatcqyojatqqyojaniqyojazmniqyojbrnqyojaEXTREMELYrnqyojaTHIN SALTIRE
atcSALTIREatqSALTIREaniSALTIREarnSALTIREazmrnSALTIREaEXTREMELYrnSALTIREatcqixlmxatqqixlmxaniqixlmx
arnqixlmxazmrnqixlmxaEXTREMELYrnqixlmxatcxexlmxatqxexlmxanixexlmxarnxexlmxazmrnxexlmx
aEXTREMELYrnxexlmxatcptxlmxatqptxlmxaniptxlmxarnptxlmxazmrnptxlmxatcylvkngxpatqylvkngxpaylvkngxp
atqylvkPINWHEELxpatcqnvkngxpatqqnvkngxpaqnvkngxpatqqnvkPINWHEELxpavztcqnvkPINWHEELxpatcqivkngxp
arnqivkngxpatqxevkngxparnxevkngxpaxevkPINWHEELxpatqptvkngxparnptvkngxpazmrnptvkngxparnptvkPINWHEELxp
atcTWELVEvkngxparnTWELVEvkngxpdPINWHEELxpanxyuaucnxyuanxxmaucnxxm"),
  (0x1F7E0, "assORANGEnwbYELLOWnwbGREENnwbPURPLEnwbBROWNnwbREDxmbBLUExmbORANGExmbYELLOWxmbGREENxm
bPURPLExmbBROWNxm"),
  (0x1F7F0, "arnpzxa"),
  (0x1F800, "asxmtzvxgyumuazimtzvxgyumuawdmtzvxgyumuaprmtzvxgyumuasxmtzvtqyumuazimtzvtqyumu
awdmtzvtqyumuaprmtzvtqyumuasxmtzvssyumuazimtzvssyumuawdmtzvssyumuaprmtzvssyumu"),
  (0x1F810, "asxmtzvxgqamuazimtzvxgqamuawdmtzvxgqamuaprmtzvxgqamuasxmtzvqamuazimtzvqamuawdmtzvqamu
aprmtzvqamuarnsxmtzvqamubzimtzvqamubwdmtzvqamubprmtzvqamubsxmtzvssqamubzimtzvssqamubwdmtzvssqamu
bprmtzvssqamuasxyvmtzvNARROWwtaziyvmtzvNARROWwtawdyvmtzvNARROWwtapryvmtzvNARROWwtasxyvmtzvtqwt
aziyvmtzvtqwtawdyvmtzvtqwtapryvmtzvtqwtasxyvmtzvniwtaziyvmtzvniwtawdyvmtzvniwtapryvmtzvniwt
asxyvmtzvrnwtaziyvmtzvrnwtawdyvmtzvrnwtapryvmtzvrnwtasxyvmtzvzmrnwtaziyvmtzvzmrnwtawdyvmtzvzmrnwt
apryvmtzvzmrnwtasxFINGER-POSTmtaziFINGER-POSTmtawdFINGER-POSTmtaprFINGER-POSTmtasxxnmtazixnmtawdxnmt
aprxnmtasxCOMPRESSEDmtaziCOMPRESSEDmtawdCOMPRESSEDmtaprCOMPRESSEDmtasxrnCOMPRESSEDmt
azirnCOMPRESSEDmtawdrnCOMPRESSEDmtaprrnCOMPRESSEDmtasxrnmtazirnmtawdrnmtaprrnmt"),
  (0x1F850, "asxwjmtaziwjmtawdwjmtaprwjmtaujzswjmtbpswjmtaxjpswjmtbzswjmtasuwbwjmtaUPppwjmt"),
  (0x1F860, "aWIDE-HEADEDsxtcnamtbzitcnamtbwdtcnamtbprtcnamtbujzstcnamtcpstcnamtbxjpstcnamtczstcnamt
bsxnamtbzinamtbwdnamtbprnamtbujzsnamtcpsnamtbxjpsnamtczsnamtbsxtqnamtbzitqnamtbwdtqnamtbprtqnamt
bujzstqnamtcpstqnamtbxjpstqnamtczstqnamtbsxrnnamtbzirnnamtbwdrnnamtbprrnnamtbujzsrnnamtcpsrnnamt
bxjpsrnnamtczsrnnamtbsxzmrnnamtbzizmrnnamtbwdzmrnnamtbprzmrnnamtbujzszmrnnamtcpszmrnnamt
bxjpszmrnnamtczszmrnnamt"),
  (0x1F890, "asxyumuaziyumuawdyumuapryumuasxzumtWITHINyumuazizumtWITHINyumuawdzumtWITHINyumu
aprzumtWITHINyumuasxmtzvNOTCHEDyaazimtzvNOTCHEDyaawdmtzvNOTCHEDyaaprmtzvNOTCHEDyaarnmtwtWIDTHuv
ezcTHIRDSeuvrdfTHIRDasxBOTTOM-SHADEDzumtawdnjSHADEDzumtasxysSHADEDzumtawdysSHADEDzumt
asxLEFT-SHADEDzumtawdRIGHT-SHADEDzumtasxRIGHT-SHADEDzumtawdLEFT-SHADEDzumtasxBACK-TILTEDwszumt
awdBACK-TILTEDwszumtasxFRONT-TILTEDwszumtawdFRONT-TILTEDwszumtazumtwtWIDTHuvezcTHIRDS"),
  (0x1F8B0, "amtvlziTHENujzscwdTHEN CURVINGxjzs"),
  (0x1F900, "anxojFORMEEzvqnplezcplcFORMEEasurdnwzvqnpleylplezcplepjcnwaDOWNWARD FACINGrrcNOTCHEDrr
crrzvpjcNOTCHEDrrzvpjaPINCHEDqhazurlaBROWNrlaPINCHINGrfaZIPPER-MOUTHqeaMONEY-MOUTHqeaqezvTHERMOMETER
aNERDqeaTHINKINGqeaqezvHEAD-BANDAGEaROBOTqeaHUGGINGqeaxaOFyhHORNSaCALL MErfavxBACK OFrf
aLEFT-FACING FISTaRIGHT-FACING FISTaHANDSHAKEarfzvrxmktsqhokaI LOVE YOUrfxaaqezvCOWBOY HATaCLOWNqe
aNAUSEATEDqeaROLLING ONyhFLOOR LAUGHINGaDROOLINGqeaLYINGqeaqePALMaSNEEZINGqeaqezvuvEYEBROWvx
aGRINNINGqezvxpEYESduvssmkuvxgEYEaqezvFINGER COVERINGobLIPSaSERIOUSqezvSYMBOLS COVERINGtw
axhqezvxhEYESmkrfCOVERINGtwaqezvuwtwVOMITINGaSHOCKEDqezvEXPLODING HEADaPREGNANT WOMANaBREAST-FEEDING
aPALMS UP TOGETHERaSELFIEaPRINCEaMAN IN TUXEDOaMOTHER CHRISTMASaSHRUGavhDOING CARTWHEELaJUGGLING
aFENCERaMODERN PENTATHLONaWRESTLERSaWATER POLOaHANDBALLaDIVING MASKaWILTED FLOWERaDRUMzvDRUMSTICKS
aCLINKING GLASSESaTUMBLER GLASSaSPOONaGOAL NETaRIFLEaFIRST PLACE MEDALaSECOND PLACE MEDAL
aTHIRD PLACE MEDALaBOXING GLOVEaMARTIAL ARTS UNIFORMaCURLING STONEaLACROSSE STICKmkBALLaSOFTBALL
aFLYING DISCaCROISSANTaAVOCADOaCUCUMBERaBACONaPOTATOaCARROTaBAGUETTE BREADaGREEN SALAD
aSHALLOW PAN OF FOODaSTUFFED FLATBREADaEGGaGLASS OF MILKaPEANUTSaKIWIFRUITaPANCAKESaDUMPLING
aFORTUNE COOKIEaTAKEOUT BOXaCHOPSTICKSaBOWLzvSPOONaCUPzvSTRAWaCOCONUTaBROCCOLIaPIEaPRETZEL
aCUT OF MEATaSANDWICHaCANNED FOODaLEAFY GREENaMANGOatvCAKEaBAGELaxhqezvxhEYESmkylrmaYAWNINGqe
axhqezvTEARaqezvPARTYrtmkPARTY HATcUNEVEN EYESmkWAVYtwaOVERHEATEDqeaFREEZINGqeaNINJAaDISGUISEDqe
aqeHOLDING BACK TEARSbzvPLEADING EYESaSARIaLAB COATaGOGGLESaHIKING BOOTaFLAT SHOEaCRABaLIONqe
aSCORPIONaTURKEYaUNICORNqeaEAGLEaDUCKaBATaSHARKaOWLaFOXqeaBUTTERFLYaDEERaGORILLAaLIZARDaRHINOCEROS
aSHRIMPaSQUIDaGIRAFFEqeaZEBRAqeaHEDGEHOGaSAUROPODaT-REXaCRICKETaKANGAROOaLLAMAaPEACOCKaHIPPOPOTAMUS
aPARROTaRACCOONaLOBSTERaMOSQUITOaMICROBEaBADGERaSWANaMAMMOTHaDODOaSLOTHaOTTERaORANGUTANaSKUNK
aFLAMINGOaOYSTERaBEAVERaBISONaSEALaGUIDE DOGaPROBING CANEaEMOJI COMPONENT RED HAIRcooHAIRcBALD
czuHAIRaBONEaLEGaFOOTaTOOTHaSUPERHEROaSUPERVILLAINaSAFETY VESTaEARzvHEARING AIDaMOTORIZED WHEELCHAIR
aMANUAL WHEELCHAIRaMECHANICAL ARMbLEGaCHEESE WEDGEaCUPCAKEaSALT SHAKERaBEVERAGE BOXaGARLICaONION
aFALAFELaWAFFLEaBUTTERaMATE DRINKaICE CUBEaBUBBLE TEAaTROLLaSTANDINGvhaKNEELINGvhaDEAFvhaqezvMONOCLE
aADULTaCHILDaOLDER ADULTaBEARDEDvhavhzvHEADSCARFbIN STEAMY ROOMbCLIMBINGbIN LOTUS POSITIONaMAGE
aFAIRYaVAMPIREaMERPERSONaELFaGENIEaZOMBIEaBRAINaORANGErlaBILLED CAPaSCARFaGLOVESaCOATaSOCKS
aRED GIFT ENVELOPEaFIRECRACKERaJIGSAW PUZZLE PIECEaTEST TUBEaPETRIpiaDNApnHELIXaCOMPASSaABACUS
aFIRE EXTINGUISHERaTOOLBOXaBRICKaMAGNETaLUGGAGEaLOTION BOTTLEaSPOOL OF THREADaBALL OF YARN
aSAFETY PINaTEDDY BEARaBROOMaBASKETaROLL OF PAPERamzOF SOAPaSPONGEaRECEIPTaNAZAR AMULETaudnvKING
cQUEENcROOKcBISHOPcsocPAWNazunvsowfFORTY-FIVEoxangnvsowfFORTY-FIVEoxaudnvsowfFORTY-FIVEox
azunvKINGwfugoxcQUEENwfugoxcROOKwfugoxcBISHOPwfugoxcsowfugoxcPAWNwfugoxangnvKINGwfugoxcQUEENwfugox
cROOKwfugoxcBISHOPwfugoxcsowfugoxcPAWNwfugoxaudnvKINGwfugoxcQUEENwfugoxcROOKwfugoxcBISHOPwfugox
csowfugoxcPAWNwfugoxazunvsowfuvruTHIRTY-FIVEoxangnvsowfuvruTHIRTY-FIVEoxaudnvsowfuvruTHIRTY-FIVEox
azunvzaKINGdQUEENdROOKdBISHOPdsodPAWNangnvzaKINGdQUEENdROOKdBISHOPdsodPAWNaudnvzaKINGdQUEENdROOK
dBISHOPdsodPAWNazunvsowfzcruTWENTY-FIVEoxangnvsowfzcruTWENTY-FIVEoxaudnvsowfzcruTWENTY-FIVEox
azunvKINGwfzcruwqoxcQUEENwfzcruwqoxcROOKwfzcruwqoxcBISHOPwfzcruwqoxcsowfzcruwqoxcPAWNwfzcruwqox
angnvKINGwfzcruwqoxcQUEENwfzcruwqoxcROOKwfzcruwqoxcBISHOPwfzcruwqoxcsowfzcruwqoxcPAWNwfzcruwqox
audnvKINGwfzcruwqoxcQUEENwfzcruwqoxcROOKwfzcruwqoxcBISHOPwfzcruwqoxcsowfzcruwqoxcPAWNwfzcruwqox
azunvsowfylruFIFTEENoxangnvsowfylruFIFTEENoxaudnvsowfylruFIFTEENoxazunvEQUIHOPPERangnvEQUIHOPPER
audnvEQUIHOPPERazunvEQUIHOPPERwfugoxangnvEQUIHOPPERwfugoxaudnvEQUIHOPPERwfugoxazunvKNIGHT-QUEEN
cKNIGHT-ROOKcKNIGHT-BISHOPangnvKNIGHT-QUEENcKNIGHT-ROOKcKNIGHT-BISHOP"),
  (0x1FA60, "aXIANGQI RED GENERALcMANDARINcELEPHANTcHORSEcCHARIOTcCANNONcSOLDIERbngGENERALcMANDARIN
cELEPHANTcHORSEcCHARIOTcCANNONcSOLDIER"),
  (0x1FA70, "aBALLET SHOESaONE-PIECE SWIMSUITaBRIEFSaSHORTSaTHONG SANDAL"),
  (0x1FA78, "aDROP OF BLOODaADHESIVE BANDAGEaSTETHOSCOPEaX-RAYaCRUTCH"),
  (0x1FA80, "aYO-YOaKITEaPARACHUTEaBOOMERANGaMAGIC WANDaPINATAaNESTING DOLLS"),
  (0x1FA90, "aRINGED PLANETaCHAIRaRAZORaAXEaDIYA LAMPaBANJOaMILITARY HELMETaACCORDIONatgDRUMaCOIN
aCARPENTRY SAWaSCREWDRIVERaLADDERarraMIRRORaWINDOWaPLUNGERaSEWING NEEDLEaKNOTaBUCKETaMOUSE TRAP
aTOOTHBRUSHaHEADSTONEaPLACARDaROCKaMIRROR BALLaIDENTIFICATION CARDathBATTERYaHAMSA"),
  (0x1FAB0, "aFLYaWORMaBEETLEaCOCKROACHaPOTTED PLANTaWOODaFEATHERaLOTUSaCORALaEMPTY NEST
aNESTzvEGGS"),
  (0x1FAC0, "aANATOMICALrlaLUNGSaPEOPLE HUGGINGaPREGNANT MANbvhavhzvCROWN"),
  (0x1FAD0, "aBLUEBERRIESaBELL PEPPERaOLIVEaFLATBREADaTAMALEaFONDUEaTEAPOTaPOURING LIQUIDaBEANS
aJAR"),
  (0x1FAE0, "aMELTINGqeaSALUTINGqeaqezvuwEYESmkrfvatwcPEEKING EYEcpctwapmtdqeaBITING LIPaBUBBLES"),
  (0x1FAF0, "arfzvrxFINGERmkynokawdrfasxrfaPALMpprfbUPrfarxvlATyhVIEWERarlHANDS"),
  (0x1FB00, "anhSEXTANT-1bSEXTANT-2bSEXTANT-12bSEXTANT-3bSEXTANT-13bSEXTANT-23bSEXTANT-123bSEXTANT-4
bSEXTANT-14bSEXTANT-24bSEXTANT-124bSEXTANT-34bSEXTANT-134bSEXTANT-234bSEXTANT-1234bSEXTANT-5
bSEXTANT-15bSEXTANT-25bSEXTANT-125bSEXTANT-35bSEXTANT-235bSEXTANT-1235bSEXTANT-45bSEXTANT-145
bSEXTANT-245bSEXTANT-1245bSEXTANT-345bSEXTANT-1345bSEXTANT-2345bSEXTANT-12345bSEXTANT-6bSEXTANT-16
bSEXTANT-26bSEXTANT-126bSEXTANT-36bSEXTANT-136bSEXTANT-236bSEXTANT-1236bSEXTANT-46bSEXTANT-146
bSEXTANT-1246bSEXTANT-346bSEXTANT-1346bSEXTANT-2346bSEXTANT-12346bSEXTANT-56bSEXTANT-156bSEXTANT-256
bSEXTANT-1256bSEXTANT-356bSEXTANT-1356bSEXTANT-2356bSEXTANT-12356bSEXTANT-456bSEXTANT-1456
bSEXTANT-2456bSEXTANT-12456bSEXTANT-3456bSEXTANT-13456bSEXTANT-23456atisunhpctitssuTOtinsjwb
ezgtssuTOtinsjwbfsuTOtinsbwbnhpczgtssuTOzgnsjwbetitssuTOzgnsjwbfsuTOzgnsftssuTOzgtswbfnsTOtitswb
fsuTOtitswbfnsTOzgtswbfsuTOzgtswbfnsTOzgwbbsunhpczgnsTOzgtswbfsuTOzgtswbfnsTOtitswbfsuTOtitswb
fnsTOtiwbftssuTOtitswbazgwbnhpctitssuTOtinsjwbezgtssuTOtinsjwbfsuTOtinsbsunhpczgtssuTOzgnsjwb
etitssuTOzgnsjwbfsuTOzgnsftssuTOzgtswbfnsTOtitswbfsuTOtitswbfnsTOzgtswbfsuTOzgtswbfnsTOzgwb
bwbnhpczgnsTOzgtswbfsuTOzgtswbfnsTOtitswbfsuTOtitswbfnsTOtiwbftssuTOtitswbbmkwbmktiywylvunh
asumktimkwbywylvunhazgmksumktiywylvunhasumkzgmkwbywylvunhbywuvvtnhazgywuvvtnhawbywuvvtnhatiywuvvtnh
azluvpuBLOCK-2dBLOCK-3dBLOCK-4dBLOCK-5dBLOCK-6dBLOCK-7arsuvpuBLOCK-2dBLOCK-3dBLOCK-4dBLOCK-5dBLOCK-6
dBLOCK-7asumktiuvpunhczguvpunhawbmkzguvpunhctiuvpunhazgmktiuvpunharsuvpuBLOCK-1358azguvvtnhbylpvnh
bqipvnhbylvunhbwppvnhawbuvvtnhbylpvnhbqipvnhbylvunhbwppvnhasurdtqSHADEawbrdtqSHADEazgrdtqSHADE
atirdtqSHADEaINVERSEtqSHADEazgrdnhmktirdINVERSEtqSHADEcINVERSEtqSHADEmktirdnh"),
  (0x1FB94, "asurdINVERSEtqSHADEmkwbrdnhaCHECKER BOARD FILLaINVERSE CHECKER BOARD FILLarnrsFILL
azgsuTOtiwbFILLbwbTOtisuFILLbmktiywrdnhasumkwbywrdnhazgsuywtqSHADEbwbywtqSHADEatiwbywtqSHADE
bsuywtqSHADEaBOX DRAWINGStcpczgnsTOtssuiwbetssuTOtinsfwbTOtinsezgnsTOtssuTOtinsiwbTOtins
etssuTOtinsTOtswbhzgnsTOtswbezgnsTOtssumktswbTOtinsiwbmktssuTOtinsjTOtinsTOtssuisuTOtinsTOtswb
etssuTOzgnsTOtswbTOtinsfwbTOzgnsTOtssuTOtinsepedrszvzlxsaARROWHEAD-SHAPED POINTERaINVERSE CHECKtn
asurdRUNNING MANawbrdRUNNING MANaINVERSEprmtzvTIPsxasxmtmkzgmktiuvpunhawdmtmkzgmktiuvpunh
aprmtmkwbuvpunhazimtmkwbuvpunhasurdFOLDERawbrdFOLDERaVOIDEDqyojawbuwxnpjaucpcojctswbTOtinscpe
azurnSALTIREzvROUNDED CORNERSasuTHIRDzuwbvlrxatsTHIRDzuwbvlrxawbTHIRDzuwbvlrxaucxnvvtnaSTICK FIGURE
czvARMSvxcLEANINGsudwbczvDRESSazuzfCHEVRON"),
  (0x1FBF0, "aSEGMENTEDpgzzcuvczccylcqncqicxecwpcptcuf"),
  (0xE0001, "aLANGUAGE TAG"),
  (0xE0020, "aTAGxkbqdtnbvwtnbunxabDOLLARxabPERCENTxabAMPERSANDbmobsuvfbwbvfbmxbvjxaboebHYPHEN-MINUS
bqqxqbxibpgzzcuvczccylcqncqicxecwpcptcufbocbwnbszxabpzxabqxxabvvtnbCOMMERCIAL ATbstnptaAeBeCeDeEeFeG
eHeIeJeKeLeMeNeOePeQeReSeTeUeVeWeXeYeZbsuxmnkbvzxibwbxmnkbnzmcbthtdbqwmcbstxgtaAeBeCeDeEeFeGeHeIeJeK
eLeMeNeOePeQeReSeTeUeVeWeXeYeZbsuoonkbzltdbwboonkbyoaCANCEL TAG")]

end EstreeEmitter.Text
